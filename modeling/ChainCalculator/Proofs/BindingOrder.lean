import ChainCalculator.Bindings

namespace ChainCalculator.Bindings

/-!
# Overrides in any order

A table of overrides has no order of its own, so its keys may be bound in any order.  Whether all of
them can be bound does not depend on it, and neither does which words are keys.

The button of a key can depend on it.  Different keys of the table may differ in letter case only.
They are one name, and of the overrides for one name the last one counts.  So the button of a key is
the same in every order if and only if the overrides for its name agree on it.
-/

/-- Bindings that a table of overrides leads to, in one of its orders. -/
def Attainable
    (overrides : List (String × String))
    (bindings : Bindings) :
    Prop :=
  ∃ ordered, overrides.Perm ordered ∧ standardWith ordered = .ok bindings

/-- All overrides for a name have actions for the same button. -/
def AgreeOn
    (overrides : List (String × String))
    (name : String) :
    Prop :=
  ∀ first ∈ overrides,
    ∀ second ∈ overrides,
      Text.lowercase first.1 = name →
        Text.lowercase second.1 = name →
          Button.ofAction? first.2 = Button.ofAction? second.2

instance (overrides : List (String × String)) (name : String) :
    Decidable (AgreeOn overrides name) :=
  inferInstanceAs (Decidable (∀ first ∈ overrides, ∀ second ∈ overrides, _ → _ → _ = _))

variable {bindings extended : Bindings} {overrides : List (String × String)}

/-- Binding a key changes the button of that key's name and of no other. -/
theorem bound?_of_bind
    {key action : String}
    (made : bindings.bind key action = .ok extended)
    (word : String) :
    extended.bound? word =
      if Text.lowercase key = Text.lowercase word then Button.ofAction? action
      else bindings.bound? word := by
  rw [bind] at made
  cases named : Button.ofAction? action with
  | none =>
      rw [named] at made
      cases made
  | some button =>
      rw [named] at made
      cases made
      by_cases same : Text.lowercase key = Text.lowercase word
      · simp [bound?, same]
      · have different : (Text.lowercase word == Text.lowercase key) = false :=
          beq_false_of_ne (Ne.symm same)
        simp [bound?, List.lookup_cons, different, same]

/-- Overrides can be bound one after the other if and only if all their actions name a button. -/
theorem isOk_bindAll_iff :
    (bindings.bindAll overrides).isOk ↔
      ∀ override ∈ overrides, (Button.ofAction? override.2).isSome := by
  induction overrides generalizing bindings with
  | nil =>
      simp [bindAll, Except.isOk, Except.toBool]
  | cons override rest inductionHypothesis =>
      rcases override with ⟨key, action⟩
      rw [List.forall_mem_cons, bindAll, bind]
      cases named : Button.ofAction? action with
      | none => simp [Except.isOk, Except.toBool]
      | some button => simpa using inductionHypothesis

/-- Several keys are bound by binding the first one and then the others. -/
theorem exists_of_bindAll_cons
    {override : String × String}
    {rest : List (String × String)}
    (made : bindings.bindAll (override :: rest) = .ok extended) :
    ∃ between,
      bindings.bind override.1 override.2 = .ok between ∧
        between.bindAll rest = .ok extended := by
  rw [bindAll] at made
  cases begun : bindings.bind override.1 override.2 with
  | error unknown =>
      rw [begun] at made
      cases made
  | ok between =>
      rw [begun] at made
      exact ⟨between, rfl, made⟩

/-- A name has the button of an override for it, or the button it had if there is no such override. -/
theorem bound?_of_bindAll
    (made : bindings.bindAll overrides = .ok extended)
    (word : String) :
    (∃ override ∈ overrides,
        Text.lowercase override.1 = Text.lowercase word ∧
          extended.bound? word = Button.ofAction? override.2) ∨
      (∀ override ∈ overrides, Text.lowercase override.1 ≠ Text.lowercase word) ∧
        extended.bound? word = bindings.bound? word := by
  induction overrides generalizing bindings with
  | nil =>
      cases made
      exact Or.inr ⟨nofun, rfl⟩
  | cons override rest inductionHypothesis =>
      obtain ⟨between, begun, finished⟩ := exists_of_bindAll_cons made
      have first := bound?_of_bind begun word
      rcases inductionHypothesis finished with ⟨later, member, named, found⟩ | ⟨others, kept⟩
      · exact Or.inl ⟨later, List.mem_cons_of_mem _ member, named, found⟩
      · by_cases named : Text.lowercase override.1 = Text.lowercase word
        · rw [if_pos named] at first
          exact Or.inl ⟨override, List.mem_cons_self, named, kept.trans first⟩
        · rw [if_neg named] at first
          exact Or.inr ⟨List.forall_mem_cons.mpr ⟨named, others⟩, kept.trans first⟩

/-- The last override for a name is the one that counts. -/
theorem bound?_of_bindAll_concat
    {earlier : List (String × String)}
    {override : String × String}
    (made : bindings.bindAll (earlier ++ [override]) = .ok extended)
    {word : String}
    (named : Text.lowercase override.1 = Text.lowercase word) :
    extended.bound? word = Button.ofAction? override.2 := by
  induction earlier generalizing bindings with
  | nil =>
      obtain ⟨between, begun, finished⟩ := exists_of_bindAll_cons made
      cases finished
      rw [bound?_of_bind begun, if_pos named]
  | cons _ rest inductionHypothesis =>
      obtain ⟨between, -, finished⟩ := exists_of_bindAll_cons made
      exact inductionHypothesis finished

namespace Attainable

/-- A table that can be bound names actions that exist. -/
theorem isSome_ofAction?
    (attainable : Attainable overrides bindings) :
    ∀ override ∈ overrides, (Button.ofAction? override.2).isSome := by
  obtain ⟨ordered, reordered, made⟩ := attainable
  have succeeds : (standard.bindAll ordered).isOk := by
    rw [← standardWith, made]
    rfl
  intro override member
  exact isOk_bindAll_iff.mp succeeds override (reordered.mem_iff.mp member)

/-- Of several overrides for a name some order makes any chosen one count. -/
theorem exists_of_mem
    (named : ∀ override ∈ overrides, (Button.ofAction? override.2).isSome)
    {override : String × String}
    (member : override ∈ overrides) :
    ∃ bindings,
      Attainable overrides bindings ∧
        ∀ word,
          Text.lowercase override.1 = Text.lowercase word →
            bindings.bound? word = Button.ofAction? override.2 := by
  have chosenLast : overrides.Perm (overrides.erase override ++ [override]) :=
    (List.perm_cons_erase member).trans (List.perm_append_singleton _ _).symm
  have succeeds : (standard.bindAll (overrides.erase override ++ [override])).isOk :=
    isOk_bindAll_iff.mpr fun other inOrder => named other (chosenLast.mem_iff.mpr inOrder)
  cases made : standard.bindAll (overrides.erase override ++ [override]) with
  | error unknown =>
      rw [made] at succeeds
      cases succeeds
  | ok bindings =>
      exact ⟨bindings, ⟨_, chosenLast, made⟩, fun word => bound?_of_bindAll_concat made⟩

/-- A name has the button of some override for it, or its standard one if there is no override. -/
theorem bound?_cases
    (attainable : Attainable overrides bindings)
    (word : String) :
    (∃ override ∈ overrides,
        Text.lowercase override.1 = Text.lowercase word ∧
          bindings.bound? word = Button.ofAction? override.2) ∨
      (∀ override ∈ overrides, Text.lowercase override.1 ≠ Text.lowercase word) ∧
        bindings.bound? word = standard.bound? word := by
  obtain ⟨ordered, reordered, made⟩ := attainable
  rcases bound?_of_bindAll made word with ⟨override, member, named, found⟩ | ⟨others, kept⟩
  · exact Or.inl ⟨override, reordered.mem_iff.mpr member, named, found⟩
  · exact Or.inr ⟨fun override member => others override (reordered.mem_iff.mp member), kept⟩

/-- Which words are bound does not depend on the order. -/
theorem isSome_bound?_iff
    (attainable : Attainable overrides bindings)
    (word : String) :
    (bindings.bound? word).isSome ↔
      (∃ override ∈ overrides, Text.lowercase override.1 = Text.lowercase word) ∨
        (standard.bound? word).isSome := by
  rcases attainable.bound?_cases word with ⟨override, member, named, found⟩ | ⟨others, kept⟩
  · rw [found]
    exact
      iff_of_true (attainable.isSome_ofAction? override member)
        (Or.inl ⟨override, member, named⟩)
  · rw [kept]
    refine ⟨Or.inr, ?_⟩
    rintro (⟨override, member, named⟩ | standardBound)
    · exact absurd named (others override member)
    · exact standardBound

/-- Overrides that agree on a word bind it to one button in all orders. -/
theorem bound?_eq_of_agreeOn
    {first second : Bindings}
    (firstAttainable : Attainable overrides first)
    (secondAttainable : Attainable overrides second)
    {word : String}
    (agree : AgreeOn overrides (Text.lowercase word)) :
    first.bound? word = second.bound? word := by
  rcases firstAttainable.bound?_cases word with
    ⟨override, member, named, found⟩ | ⟨others, kept⟩
  · rcases secondAttainable.bound?_cases word with
      ⟨other, otherMember, otherNamed, otherFound⟩ | ⟨others, -⟩
    · rw [found, otherFound]
      exact agree override member other otherMember named otherNamed
    · exact absurd named (others override member)
  · rcases secondAttainable.bound?_cases word with
      ⟨other, otherMember, otherNamed, -⟩ | ⟨-, otherKept⟩
    · exact absurd otherNamed (others other otherMember)
    · rw [kept, otherKept]

/-- Words are split into the same keys in every order. -/
theorem keysOfWord_eq
    {first second : Bindings}
    (firstAttainable : Attainable overrides first)
    (secondAttainable : Attainable overrides second)
    (word : String) :
    first.keysOfWord word = second.keysOfWord word := by
  have sameKeys : (first.bound? word).isSome ↔ (second.bound? word).isSome :=
    (firstAttainable.isSome_bound?_iff word).trans
      (secondAttainable.isSome_bound?_iff word).symm
  simp only [keysOfWord, sameKeys]

/-- A key whose overrides agree has the same button in every order. -/
theorem resolve?_eq_of_agreeOn
    {first second : Bindings}
    (firstAttainable : Attainable overrides first)
    (secondAttainable : Attainable overrides second)
    {key : String}
    (agree : AgreeOn overrides (Text.lowercase key)) :
    first.resolve? key = second.resolve? key := by
  rw [resolve?, resolve?, firstAttainable.bound?_eq_of_agreeOn secondAttainable agree]

/-- Without an override for its name a key has its standard button in every order. -/
theorem resolve?_of_forall_ne
    (attainable : Attainable overrides bindings)
    {key : String}
    (alone : ∀ override ∈ overrides, Text.lowercase override.1 ≠ Text.lowercase key) :
    bindings.resolve? key = standard.resolve? key := by
  rw [resolve?, resolve?]
  rcases attainable.bound?_cases key with ⟨override, member, named, -⟩ | ⟨-, kept⟩
  · exact absurd named (alone override member)
  · rw [kept]

/-- Every order leads to bindings if all actions name a button. -/
theorem exists_of_order
    (named : ∀ override ∈ overrides, (Button.ofAction? override.2).isSome)
    (order : TableOrder) :
    ∃ bindings,
      standardWith (order.arrange overrides) = .ok bindings ∧ Attainable overrides bindings := by
  have reordered := order.reorders overrides
  have succeeds : (standard.bindAll (order.arrange overrides)).isOk :=
    isOk_bindAll_iff.mpr fun override inOrder => named override (reordered.mem_iff.mpr inOrder)
  cases made : standard.bindAll (order.arrange overrides) with
  | error unknown =>
      rw [made] at succeeds
      cases succeeds
  | ok bindings =>
      exact ⟨bindings, made, _, reordered, made⟩

/-- Bindings that a table leads to are those of some run. -/
theorem exists_order
    (attainable : Attainable overrides bindings) :
    ∃ order : TableOrder, standardWith (order.arrange overrides) = .ok bindings := by
  obtain ⟨ordered, reordered, made⟩ := attainable
  refine ⟨⟨fun table => if table = overrides then ordered else table, ?_⟩, ?_⟩
  · intro table
    split
    case isTrue given => exact given ▸ reordered
    case isFalse => exact .refl table
  · simpa using made

end Attainable

/--
Whether overrides can be bound is the same in all their orders, and so is how words are split into
keys.  All orders give a key the same button if and only if the overrides for its name agree on the
button, or some action among the overrides names none.
-/
theorem standardWith_any_order
    (overrides : List (String × String)) :
    (∀ ordered,
        overrides.Perm ordered → (standardWith ordered).isOk = (standardWith overrides).isOk) ∧
      (∀ first second,
        Attainable overrides first →
          Attainable overrides second →
            ∀ word, first.keysOfWord word = second.keysOfWord word) ∧
      ∀ key,
        (∀ first second,
            Attainable overrides first →
              Attainable overrides second →
                first.resolve? key = second.resolve? key) ↔
          ((standardWith overrides).isOk → AgreeOn overrides (Text.lowercase key)) := by
  refine ⟨?_, ?_, ?_⟩
  · intro ordered reordered
    rw [Bool.eq_iff_iff, standardWith, standardWith, isOk_bindAll_iff, isOk_bindAll_iff]
    simp only [reordered.mem_iff]
  · intro first second firstAttainable secondAttainable
    exact firstAttainable.keysOfWord_eq secondAttainable
  · intro key
    constructor
    · intro same succeeds first firstMember second secondMember firstNamed secondNamed
      -- Each of the two overrides comes last in some order, and then its action decides.
      have named := isOk_bindAll_iff.mp succeeds
      obtain ⟨firstBindings, firstAttainable, firstFound⟩ :=
        Attainable.exists_of_mem named firstMember
      obtain ⟨secondBindings, secondAttainable, secondFound⟩ :=
        Attainable.exists_of_mem named secondMember
      have resolved := same _ _ firstAttainable secondAttainable
      rwa [resolve?, resolve?, firstFound key firstNamed, secondFound key secondNamed,
        Option.or_of_isSome (named first firstMember),
        Option.or_of_isSome (named second secondMember)] at resolved
    · intro agree first second firstAttainable secondAttainable
      have succeeds : (standardWith overrides).isOk :=
        isOk_bindAll_iff.mpr firstAttainable.isSome_ofAction?
      exact firstAttainable.resolve?_eq_of_agreeOn secondAttainable (agree succeeds)

/-- The keys `Q` and `q` of a table are one name: the later of them gets the button. -/
theorem not_forall_overrides_any_order :
    ¬∀ (overrides ordered : List (String × String)) (first second : Bindings) (key : String),
        (overrides.map Prod.fst).Nodup →
          overrides.Perm ordered →
            standardWith overrides = .ok first →
              standardWith ordered = .ok second →
                first.resolve? key = second.resolve? key := by
  intro same
  have capital : Text.lowercase "Q" = "q" := by
    decide +kernel
  have small : Text.lowercase "q" = "q" := by
    decide +kernel
  have clear : Button.ofAction? "clear-all" = some .clearAll := by
    decide
  have equals : Button.ofAction? "equals" = some .equals := by
    decide
  have resolved :=
    same [("Q", "clear-all"), ("q", "equals")] [("q", "equals"), ("Q", "clear-all")]
      ⟨("q", .equals) :: ("q", .clearAll) :: standard.buttons⟩
      ⟨("q", .clearAll) :: ("q", .equals) :: standard.buttons⟩ "q"
      (by decide) (.swap _ _ _)
      (by simp [standardWith, bindAll, bind, capital, small, clear, equals])
      (by simp [standardWith, bindAll, bind, capital, small, clear, equals])
  simp [resolve?, bound?, small] at resolved

end ChainCalculator.Bindings

import Architecture.Proofs.Source.TestCode
import Architecture.Standard
import Mathlib.Data.List.Infix

/-!
# Conditions and the tests

What stands behind an attribute `cfg` is compiled if a condition on the build holds. An item
counts as test code if the word for tests can be read anywhere in the text of such a condition,
as a flag, within another name or in a value, negated or not. So nothing is missed that only
builds with tests compile, but what a build without tests compiles may count as test code too.
-/

namespace Architecture

namespace Text

theorem contains_iff_infix {part text : List Char} :
    contains part text = true ↔ part <:+: text := by
  induction text with
  | nil => simp [contains, List.isEmpty_iff]
  | cons c rest inductionHypothesis =>
      rw [contains, Bool.or_eq_true, inductionHypothesis, List.isPrefixOf_iff_prefix,
        List.infix_cons_iff]

/-- A character that is not in the part that is sought divides a text. -/
theorem infix_append_cons_iff {part before after : List Char} {c : Char} (foreign : c ∉ part) :
    part <:+: before ++ c :: after ↔ part <:+: before ∨ part <:+: after := by
  constructor
  · rintro ⟨left, right, equal⟩
    rcases List.append_eq_append_iff.mp equal with ⟨rest, whole, _⟩ | ⟨rest, whole, tail⟩
    · exact .inl ⟨left, rest, whole.symm⟩
    · cases rest with
      | nil => exact .inl ⟨left, [], by simpa using whole⟩
      | cons d rest =>
          obtain ⟨rfl, rfl⟩ := List.cons.inj tail
          rcases List.append_eq_append_iff.mp whole with ⟨inner, _, inside⟩ | ⟨inner, _, inside⟩
          · exact absurd (inside ▸ List.mem_append_right _ List.mem_cons_self) foreign
          · cases inner with
            | nil => exact absurd (List.nil_append part ▸ inside ▸ List.mem_cons_self) foreign
            | cons d inner =>
                obtain ⟨_, rfl⟩ := List.cons.inj inside
                exact .inr ⟨inner, right, rfl⟩
  · rintro (⟨left, right, rfl⟩ | ⟨left, right, rfl⟩)
    · exact ⟨left, right ++ c :: after, by simp⟩
    · exact ⟨before ++ c :: left, right, by simp⟩

end Text

namespace Source

/-- Whether a text has the letters of the word for tests in it. -/
def namesTests (text : String) : Bool := Text.contains "test".toList text.toList

theorem namesTests_divided (before after : String) {c : Char} (foreign : c ∉ "test".toList) :
    namesTests (before ++ String.singleton c ++ after) =
      (namesTests before || namesTests after) := by
  rw [Bool.eq_iff_iff, Bool.or_eq_true]
  simp only [namesTests, Text.contains_iff_infix, String.toList_append, String.toList_singleton,
    List.append_assoc, List.singleton_append]
  exact Text.infix_append_cons_iff foreign

theorem namesTests_blank (before after : String) :
    namesTests (before ++ " " ++ after) = (namesTests before || namesTests after) := by
  have blank : " " = String.singleton ' ' := by decide
  rw [blank]
  exact namesTests_divided before after (by decide)

theorem namesTests_empty : namesTests "" = false := by decide

namespace Token

/-- A token is no letter of the word for tests. Only a mark could be one: it is all that may stand
before another token without a blank between them. -/
def isForeign : Token → Bool
  | mark c _ => !"test".toList.contains c
  | _ => true

theorem namesTests_mark {c : Char} {joint : Bool} (foreign : (mark c joint).isForeign = true) :
    namesTests (mark c joint).text = false := by
  have absent : c ∉ "test".toList := by simpa [isForeign] using foreign
  have divided := namesTests_divided "" "" absent
  simpa [text, namesTests_empty] using divided

/-- No part of the word for tests is spread over several tokens. -/
theorem namesTests_textOf {tokens : List Token} (foreign : tokens.all isForeign = true) :
    namesTests (textOf tokens) = tokens.any (namesTests ·.text) := by
  induction tokens with
  | nil => exact namesTests_empty
  | cons token rest inductionHypothesis =>
      rw [List.all_cons, Bool.and_eq_true] at foreign
      cases rest with
      | nil => simp [textOf]
      | cons next rest =>
          rw [List.any_cons, ← inductionHypothesis foreign.2]
          cases token with
          | word _ | literal _ | group _ _ => rw [textOf, namesTests_blank]; simp
          | mark c joint =>
              cases joint with
              | false => rw [textOf, namesTests_blank]; simp
              | true =>
                  have absent : c ∉ "test".toList := by simpa [isForeign] using foreign.1
                  have divided := namesTests_divided "" (textOf (next :: rest)) absent
                  rw [namesTests_mark foreign.1]
                  simpa [textOf, text, namesTests_empty] using divided

theorem namesTests_group (inside : List Token) :
    namesTests (group .paren inside).text = namesTests (textOf inside) := by
  -- The parentheses divide the text, and nothing stands before and behind them.
  have opening : '(' ∉ "test".toList := by decide
  have closing : ')' ∉ "test".toList := by decide
  have opened := namesTests_divided "" (textOf inside) opening
  have closed := namesTests_divided ("" ++ String.singleton '(' ++ textOf inside) "" closing
  rw [opened] at closed
  simpa [text, Delimiter.opening, Delimiter.closing, Delimiter.padding, namesTests_empty]
    using closed

theorem namesTests_operator (name : String) {inside : List Token}
    (foreign : inside.all isForeign = true) :
    [word name, group .paren inside].any (namesTests ·.text) =
      (namesTests name || inside.any (namesTests ·.text)) := by
  rw [List.any_cons, List.any_cons, namesTests_group, namesTests_textOf foreign, List.any_nil,
    Bool.or_false, text]

end Token

/-- What an attribute asks of a build. -/
inductive Condition where
  | flag (name : String)
  /-- An option has a value, which is kept as it is written. -/
  | option (key literal : String)
  | all (conditions : List Condition)
  | any (conditions : List Condition)
  | negation (condition : Condition)

/-- The flags that are set for a build, and the values of its options. -/
structure Build where
  flags : String → Bool
  options : String → String → Bool

namespace Build

def hasTests (b : Build) : Bool := b.flags "test"

/-- The build without tests that is the same in all else. -/
def withoutTests (b : Build) : Build :=
  { b with flags := fun name => name != "test" && b.flags name }

end Build

namespace Condition

mutual

/-- Tokens that spell a condition. -/
inductive Spelled : Condition → List Token → Prop where
  | flag (name : String) : Spelled (.flag name) [.word name]
  | option {key literal : String} {joint : Bool} (isText : Literal.isText literal = true) :
      Spelled (.option key literal) [.word key, .mark '=' joint, .literal literal]
  | all {conditions : List Condition} {inside : List Token} :
      SpelledAll conditions inside →
      Spelled (.all conditions) [.word "all", .group .paren inside]
  | any {conditions : List Condition} {inside : List Token} :
      SpelledAll conditions inside →
      Spelled (.any conditions) [.word "any", .group .paren inside]
  | negation {condition : Condition} {inside : List Token} :
      SpelledAll [condition] inside →
      Spelled (.negation condition) [.word "not", .group .paren inside]

/-- Conditions with commas between them, and possibly one behind the last. -/
inductive SpelledAll : List Condition → List Token → Prop where
  | nil : SpelledAll [] []
  | last {condition : Condition} {tokens : List Token} :
      Spelled condition tokens → SpelledAll [condition] tokens
  | cons {condition : Condition} {rest : List Condition} {tokens others : List Token}
      {joint : Bool} : Spelled condition tokens → SpelledAll rest others →
      SpelledAll (condition :: rest) (tokens ++ .mark ',' joint :: others)

end

mutual

def holds (b : Build) : Condition → Bool
  | flag name => b.flags name
  | option key literal => (Literal.textValue? literal).any (b.options key)
  | all conditions => allHold b conditions
  | any conditions => someHold b conditions
  | negation condition => !holds b condition

def allHold (b : Build) : List Condition → Bool
  | [] => true
  | condition :: rest => holds b condition && allHold b rest

def someHold (b : Build) : List Condition → Bool
  | [] => false
  | condition :: rest => holds b condition || someHold b rest

end

mutual

/-- Whether the letters of the word for tests stand in a name or a value. -/
def namesTests : Condition → Bool
  | flag name => Source.namesTests name
  | option key literal => Source.namesTests key || Source.namesTests literal
  | all conditions => someNameTests conditions
  | any conditions => someNameTests conditions
  | negation condition => namesTests condition

def someNameTests : List Condition → Bool
  | [] => false
  | condition :: rest => namesTests condition || someNameTests rest

end

mutual

theorem Spelled.namesTests_tokens : {c : Condition} → {tokens : List Token} →
    Spelled c tokens → tokens.all Token.isForeign = true ∧
      tokens.any (Source.namesTests ·.text) = c.namesTests
  | _, _, .flag name => ⟨rfl, by simp [Token.text, namesTests]⟩
  | _, _, @Spelled.option _ _ joint _ => by
      have mark : Source.namesTests (Token.mark '=' joint).text = false := Token.namesTests_mark rfl
      refine ⟨rfl, ?_⟩
      rw [List.any_cons, List.any_cons, mark]
      simp [Token.text, namesTests]
  | _, _, .all listed | _, _, .any listed => by
      obtain ⟨foreign, named⟩ := listed.namesTests_tokens
      exact ⟨rfl, (Token.namesTests_operator _ foreign).trans (congrArg _ named)⟩
  | _, _, .negation listed => by
      obtain ⟨foreign, named⟩ := listed.namesTests_tokens
      rw [someNameTests, someNameTests, Bool.or_false] at named
      exact ⟨rfl, (Token.namesTests_operator _ foreign).trans (congrArg _ named)⟩

theorem SpelledAll.namesTests_tokens : {conditions : List Condition} → {tokens : List Token} →
    SpelledAll conditions tokens → tokens.all Token.isForeign = true ∧
      tokens.any (Source.namesTests ·.text) = someNameTests conditions
  | _, _, .nil => ⟨rfl, rfl⟩
  | _, _, .last spelled => by
      obtain ⟨foreign, named⟩ := spelled.namesTests_tokens
      exact ⟨foreign, by simp [named, someNameTests]⟩
  | _, _, @SpelledAll.cons _ _ _ _ joint spelled others => by
      obtain ⟨foreign, named⟩ := spelled.namesTests_tokens
      obtain ⟨foreignRest, namedRest⟩ := others.namesTests_tokens
      have mark : Source.namesTests (Token.mark ',' joint).text = false := Token.namesTests_mark rfl
      rw [List.all_append, List.all_cons, List.any_append, List.any_cons, foreign, foreignRest,
        named, namedRest, mark, someNameTests]
      exact ⟨rfl, rfl⟩

end

mutual

/-- Without the word for tests in it, a condition does not depend on whether there are tests. -/
theorem holds_withoutTests (b : Build) : (c : Condition) → c.namesTests = false →
    c.holds b.withoutTests = c.holds b
  | flag name, unnamed => by
      have other : name ≠ "test" := by
        rintro rfl
        exact absurd unnamed (by decide)
      simp [holds, Build.withoutTests, other]
  | option _ _, _ => rfl
  | all conditions, unnamed => (allHold_withoutTests b conditions unnamed).1
  | any conditions, unnamed => (allHold_withoutTests b conditions unnamed).2
  | negation condition, unnamed => congrArg Bool.not (holds_withoutTests b condition unnamed)

theorem allHold_withoutTests (b : Build) : (conditions : List Condition) →
    someNameTests conditions = false →
    allHold b.withoutTests conditions = allHold b conditions ∧
      someHold b.withoutTests conditions = someHold b conditions
  | [], _ => ⟨rfl, rfl⟩
  | condition :: rest, unnamed => by
      rw [someNameTests, Bool.or_eq_false_iff] at unnamed
      obtain ⟨allSame, someSame⟩ := allHold_withoutTests b rest unnamed.2
      rw [allHold, allHold, someHold, someHold, holds_withoutTests b condition unnamed.1, allSame,
        someSame]
      exact ⟨rfl, rfl⟩

end

theorem someNameTests_eq_any (conditions : List Condition) :
    someNameTests conditions = conditions.any (·.namesTests) := by
  induction conditions with
  | nil => rfl
  | cons condition rest inductionHypothesis =>
      rw [someNameTests, inductionHypothesis, List.any_cons]

end Condition

/-- Whether a build compiles what stands behind these conditions. -/
def Build.compiles (b : Build) (conditions : List Condition) : Bool :=
  Condition.allHold b conditions

/-- The attributes `cfg` among attributes have these conditions, in order. -/
def Conditioned (attributes : List Attribute) (conditions : List Condition) : Prop :=
  List.Forall₂ (fun a c => ∃ inside, a.input = .list inside ∧ Condition.SpelledAll [c] inside)
    (attributes.filter (·.path.isWord "cfg")) conditions

theorem isTestOnly_eq_any {attributes : List Attribute} {conditions : List Condition}
    (written : Conditioned attributes conditions) :
    isTestOnly attributes = conditions.any (·.namesTests) := by
  have listed : isTestOnly attributes =
      (attributes.filter (·.path.isWord "cfg")).any fun a => namesTests a.input.text := by
    rw [List.any_filter]
    rfl
  rw [listed]
  unfold Conditioned at written
  generalize attributes.filter (·.path.isWord "cfg") = asking at written ⊢
  induction written with
  | nil => rfl
  | cons spelled _ inductionHypothesis =>
      obtain ⟨inside, input, spelled⟩ := spelled
      obtain ⟨foreign, named⟩ := spelled.namesTests_tokens
      rw [List.any_cons, List.any_cons, inductionHypothesis, input, AttributeInput.text,
        Token.namesTests_textOf foreign, named, Condition.someNameTests, Condition.someNameTests,
        Bool.or_false]

/-- What one build compiles without the word for tests in a condition, its variant without tests
compiles too. -/
theorem compiles_withoutTests {conditions : List Condition} (b : Build)
    (unnamed : conditions.any (·.namesTests) = false) :
    b.withoutTests.compiles conditions = b.compiles conditions := by
  rw [← Condition.someNameTests_eq_any] at unnamed
  exact (Condition.allHold_withoutTests b conditions unnamed).1

/-- The attributes by which an item itself may belong to the tests, inline modules apart. -/
def Item.guard : Item → List Attribute
  | .implementation i => i.attributes
  | _ => []

/-- The attributes by which an item may belong to the tests: its own and those of the modules
around it. -/
def Leaf.guards (l : Leaf) : List Attribute :=
  l.around.flatMap (·.attributes) ++ l.item.guard

def Item.heading? : Item → Option ModuleHeading
  | .fileModule attributes name => some ⟨attributes, name⟩
  | .inlineModule attributes name _ => some ⟨attributes, name⟩
  | _ => none

mutual

theorem leaves_visits : (s : Scope) → (item : Item) →
    (visits s item).map (·.leaf) =
      (leaves item).filter (·.around.all fun m => !isTestOnly m.attributes)
  | s, .inlineModule attributes name items => by
      rw [visits, leaves, List.filter_map]
      have within := leaves_visitsAll (s.enter name items) items
      split
      next tests => simp [Function.comp_def, Leaf.inside, tests]
      next others =>
        rw [Bool.not_eq_true] at others
        simp only [Function.comp_def, Leaf.inside, List.all_cons, others, Bool.not_false,
          Bool.true_and, List.map_map, ← within]
        rfl
  | _, .data _ _ | _, .interface _ _ _ | _, .implementation _ | _, .fileModule _ _
  | _, .use _ | _, .other => rfl

theorem leaves_visitsAll : (s : Scope) → (items : List Item) →
    (visitsAll s items).map (·.leaf) =
      (leavesAll items).filter (·.around.all fun m => !isTestOnly m.attributes)
  | _, [] => rfl
  | s, item :: rest => by
      rw [visitsAll, leavesAll, List.map_append, List.filter_append, leaves_visits s item,
        leaves_visitsAll s rest]

end

/-- What extraction makes something of: all that it visits but implementations for tests. -/
def extractedVisits (s : Scope) (items : List Item) : List Visit :=
  (visitsAll s items).filter fun v => !isTestOnly v.leaf.item.guard

theorem Extracted.gather_filter {α : Type} {f : α → Found Extracted} {keep : α → Bool}
    {items : List α} (dropped : ∀ item ∈ items, keep item = false → f item = .ok {}) :
    gather f (items.filter keep) = gather f items := by
  induction items with
  | nil => rfl
  | cons item rest inductionHypothesis =>
      rcases List.forall_mem_cons.mp dropped with ⟨first, others⟩
      rw [gather_cons, ← inductionHypothesis others]
      by_cases kept : keep item = true
      · rw [List.filter_cons_of_pos kept, gather_cons]
      · rw [List.filter_cons_of_neg kept, first (Bool.not_eq_true _ ▸ kept)]
        cases gather f (rest.filter keep) with
        | error failure => rfl
        | ok e => rfl

/-- Nothing is made of an implementation for tests. -/
theorem extractAll_eq_extractedVisits [SourceNotation] (s : Scope) (items : List Item) :
    extractAll s items = Extracted.gather Visit.yield (extractedVisits s items) := by
  rw [extractAll_eq_gather, extractedVisits, Extracted.gather_filter]
  rintro ⟨scope, around, item⟩ _ tests
  rw [Bool.not_eq_false'] at tests
  cases item with
  | implementation i =>
      have nothing : scope.part? i = .ok none := if_pos tests
      simp [Visit.yield, Scope.yield, nothing]
  | _ => cases tests

theorem mem_extractedVisits_iff {s : Scope} {items : List Item} {l : Leaf}
    (member : l ∈ leavesAll items) :
    l ∈ (extractedVisits s items).map (·.leaf) ↔ isTestOnly l.guards = false := by
  have extracted : (extractedVisits s items).map (·.leaf) =
      ((visitsAll s items).map (·.leaf)).filter fun l => !isTestOnly l.item.guard := by
    rw [extractedVisits, List.filter_map]
    rfl
  have guards : isTestOnly l.guards = false ↔
      (∀ m ∈ l.around, isTestOnly m.attributes = false) ∧ isTestOnly l.item.guard = false := by
    rw [Leaf.guards, isTestOnly, List.any_append, Bool.or_eq_false_iff, List.any_flatMap]
    simp [isTestOnly]
  rw [guards, extracted, leaves_visitsAll, List.mem_filter, List.mem_filter]
  simp [member]

/-- A declared module is recorded, with all in it, unless it counts as a module for tests. -/
theorem modulesIn_eq_nil_iff {m : Item} {h : ModuleHeading} (heading : m.heading? = some h)
    (home : List String) : modulesIn home m = [] ↔ isTestOnly h.attributes = true := by
  cases m with
  | fileModule attributes name =>
      cases heading
      simp [modulesIn]
  | inlineModule attributes name items =>
      cases heading
      simp [modulesIn]
  | _ => cases heading

/-- An item counts as test code, and is skipped, exactly if the word for tests stands in one of
its conditions. All that only builds with tests compile is among it. That no other build compiles
what counts as test code is so exactly if the word stands nowhere or the conditions rule out every
build without tests. -/
theorem isTestOnly_sound_iff [SourceNotation] {attributes : List Attribute}
    {conditions : List Condition} (written : Conditioned attributes conditions) :
    (isTestOnly attributes = true ↔ ∃ c ∈ conditions, c.namesTests = true) ∧
      ((∃ b : Build, b.compiles conditions = true) →
        (∀ b : Build, b.hasTests = false → b.compiles conditions = false) →
        isTestOnly attributes = true) ∧
      ((isTestOnly attributes = true →
          ∀ b : Build, b.hasTests = false → b.compiles conditions = false) ↔
        (∀ c ∈ conditions, c.namesTests = false) ∨
          ∀ b : Build, b.hasTests = false → b.compiles conditions = false) ∧
      (∀ home m h, m.heading? = some h → h.attributes = attributes →
        (modulesIn home m = [] ↔ isTestOnly attributes = true)) ∧
      ∀ s items,
        extractAll s items = Extracted.gather Visit.yield (extractedVisits s items) ∧
          ∀ l ∈ leavesAll items, l.guards = attributes →
            (l ∈ (extractedVisits s items).map (·.leaf) ↔ isTestOnly attributes = false) := by
  have named := isTestOnly_eq_any written
  refine ⟨?_, ?_, ?_, ?_, ?_⟩
  · rw [named, List.any_eq_true]
  · rintro ⟨b, compiled⟩ onlyTests
    by_contra unnamed
    rw [Bool.not_eq_true, named] at unnamed
    have same := compiles_withoutTests b unnamed
    rw [compiled, onlyTests b.withoutTests rfl] at same
    cases same
  · by_cases mentioned : isTestOnly attributes = true
    · have present : ¬ ∀ c ∈ conditions, c.namesTests = false := by
        rw [named, List.any_eq_true] at mentioned
        obtain ⟨c, member, names⟩ := mentioned
        exact fun absent => absurd names (by simp [absent c member])
      simp only [mentioned, present, true_implies, false_or]
    · have absent : ∀ c ∈ conditions, c.namesTests = false := by
        rw [named, Bool.not_eq_true, List.any_eq_false] at mentioned
        exact fun c member => Bool.not_eq_true _ ▸ mentioned c member
      exact ⟨fun _ => .inl absent, fun _ tests => absurd tests mentioned⟩
  · rintro home m h heading rfl
    exact modulesIn_eq_nil_iff heading home
  · intro s items
    refine ⟨extractAll_eq_extractedVisits s items, ?_⟩
    rintro l member rfl
    exact mem_extractedVisits_iff member

def cfg (inside : List Token) : Attribute where
  path := { names := ["cfg"] }
  input := .list inside

/-- An implementation behind `#[inline]` and `#[cfg(all(test, feature = "slow"))]`. -/
def slowAttributes : List Attribute := [
  { path := { names := ["inline"] } },
  cfg [.word "all", .group .paren
    [.word "test", .mark ',' false, .word "feature", .mark '=' false, .literal "\"slow\""]]]

def slowConditions : List Condition := [.all [.flag "test", .option "feature" "\"slow\""]]

theorem conditioned_slow : Conditioned slowAttributes slowConditions := by
  have option : Condition.Spelled (.option "feature" "\"slow\"")
      [.word "feature", .mark '=' false, .literal "\"slow\""] :=
    .option (by decide)
  exact .cons ⟨_, rfl, .last (.all (.cons (.flag "test") (.last option)))⟩ .nil

def slowImplementation : Implementation where
  attributes := slowAttributes
  target := .path { names := ["Net"] } []

open scoped Standard

theorem isTestOnly_sound_iff_slow :
    Conditioned slowAttributes slowConditions ∧ isTestOnly slowAttributes = true ∧
      (∀ b : Build, b.hasTests = false → b.compiles slowConditions = false) ∧
      ∀ s, { item := .implementation slowImplementation } ∉
        (extractedVisits s [.implementation slowImplementation]).map (·.leaf) := by
  obtain ⟨_, found, sound, _, extracted⟩ := isTestOnly_sound_iff conditioned_slow
  have onlyTests : ∀ b : Build, b.hasTests = false → b.compiles slowConditions = false := by
    intro b tests
    have unset : b.flags "test" = false := tests
    simp [Build.compiles, slowConditions, Condition.allHold, Condition.holds, unset]
  have tested : isTestOnly slowAttributes = true := by
    refine found ⟨⟨fun _ => true, fun _ _ => true⟩, ?_⟩ onlyTests
    decide +kernel
  refine ⟨conditioned_slow, tested, sound.mpr (.inr onlyTests) tested, ?_⟩
  intro s visited
  have kept := ((extracted s _).2 _ List.mem_cons_self rfl).mp visited
  rw [tested] at kept
  cases kept

/-- What stands behind `#[cfg(not(test))]`. -/
def notTests : List Attribute := [cfg [.word "not", .group .paren [.word "test"]]]

def keptFile : SourceFile where
  home := []
  items := [
    .data { name := "Net" } [],
    .implementation {
      attributes := notTests
      target := .path { names := ["Net"] } []
      functions := [{ name := "haul", hasReceiver := true }] },
    .inlineModule notTests "real" [.data { name := "Kept" } []]]

/-- Code that every build without tests compiles counts as test code and is not extracted. -/
theorem isTestOnly_notTests :
    Conditioned notTests [.negation (.flag "test")] ∧ isTestOnly notTests = true ∧
      (∀ b : Build, b.hasTests = false → b.compiles [.negation (.flag "test")] = true) ∧
      (packageTypes "app" [keptFile]).map (·.map fun t => (t.key, t.members)) =
        .ok [(⟨⟨some "app", "Net"⟩, "app"⟩, [])] := by
  refine ⟨?_, by decide, ?_, by decide +kernel⟩
  · exact .cons ⟨_, rfl, .last (.negation (.last (.flag "test")))⟩ .nil
  · intro b tests
    have unset : b.flags "test" = false := tests
    simp [Build.compiles, Condition.allHold, Condition.holds, unset]

end Source

end Architecture

import EntityStore.Proofs.Source.Reader
import Mathlib

/-! Parsers and the names that they read.
A parser only takes tokens away, and looks into groups, so that it leaves named tokens where it
starts with some. A name that it reads on the way is therefore a name, and so are the names of a
module and of the types in it.
-/

namespace EntityStore.Source

open Std.Do

set_option mvcgen.warning false

variable {α : Type} {parser : Parser α}

-----------------------------------------------------------------------------------------
-- What a parser leaves
-----------------------------------------------------------------------------------------

/-- A triple of a parser is about the runs of it that do not fail. -/
theorem triple_iff {before : List Token → Prop} {after : α → List Token → Prop}
    : ⦃fun tokens => ⌜before tokens⌝⦄ parser ⦃⇓? value rest => ⌜after value rest⌝⦄
      ↔ ∀ tokens value rest,
          before tokens → parser tokens = some (value, rest) → after value rest := by
  constructor
  · intro triple tokens value rest holds found
    have spec : (wp⟦parser tokens⟧ (fun result => ⌜after result.1 result.2⌝, ExceptConds.true)).down :=
      triple tokens holds
    rw [found] at spec
    exact spec
  · intro reads tokens holds
    change (wp⟦parser tokens⟧ (fun result => ⌜after result.1 result.2⌝, ExceptConds.true)).down
    cases found : parser tokens with
    | none => exact True.intro
    | some result => exact reads tokens result.1 result.2 holds found

/-- The parser leaves named tokens of named tokens. -/
abbrev Keeps (parser : Parser α) : Prop :=
  ⦃fun tokens => ⌜AllNamed tokens⌝⦄ parser ⦃⇓? _ rest => ⌜AllNamed rest⌝⦄

/-- The parser leaves named tokens of named tokens, and reads something with a property. -/
abbrev Reads (parser : Parser α) (property : α → Prop) : Prop :=
  ⦃fun tokens => ⌜AllNamed tokens⌝⦄ parser ⦃⇓? value rest => ⌜property value ∧ AllNamed rest⌝⦄

@[spec] theorem failure_spec {after : α → List Token → Prop}
    : ⦃fun _ => ⌜True⌝⦄ (failure : Parser α) ⦃⇓? value rest => ⌜after value rest⌝⦄ :=
  triple_iff.mpr fun _ _ _ _ found => nomatch found

theorem orElse_keeps {first second : Parser α} (firstKeeps : Keeps first)
    (secondKeeps : Keeps second)
    : Keeps (first <|> second) := by
  refine triple_iff.mpr fun tokens value rest named found => ?_
  change (first tokens <|> second tokens) = some (value, rest) at found
  cases chosen : first tokens with
  | some result =>
      rw [chosen] at found
      cases found
      exact triple_iff.mp firstKeeps tokens value rest named chosen
  | none =>
      rw [chosen] at found
      exact triple_iff.mp secondKeeps tokens value rest named found

private theorem readAll_iff {tokens : List Token} {value : α}
    : readAll parser tokens = some value ↔ parser tokens = some (value, []) := by
  unfold readAll
  split
  next read all => simp [all]
  next other =>
    simp only [reduceCtorEq, false_iff]
    exact fun all => other value all

/-- What is read inside of a group leaves the tokens behind it alone. -/
@[spec] theorem inside_keeps (contents : List Token) (parser : Parser α)
    : Keeps (inside contents parser) := by
  refine triple_iff.mpr fun tokens value rest named found => ?_
  obtain ⟨result, -, same⟩ := Option.map_eq_some_iff.mp found
  cases same
  exact named

theorem inside_reads {property : α → Prop} {contents : List Token}
    (contentsNamed : AllNamed contents) (reads : Reads parser property)
    : Reads (inside contents parser) property := by
  refine triple_iff.mpr fun tokens value rest named found => ?_
  obtain ⟨result, read, same⟩ := Option.map_eq_some_iff.mp found
  cases same
  have taken := triple_iff.mp reads contents value [] contentsNamed (readAll_iff.mp read)
  exact ⟨taken.1, named⟩

-----------------------------------------------------------------------------------------
-- Tokens
-----------------------------------------------------------------------------------------

private theorem allNamed_drop {tokens : List Token} (named : AllNamed tokens) (count : Nat)
    : AllNamed (tokens.drop count) :=
  named.of_suffix (List.drop_suffix count tokens)

@[spec] theorem next_reads : Reads next Token.Named := by
  mvcgen [next]
  simp_all

@[spec] theorem symbol_keeps (chars : List Char) : Keeps (symbol chars) := by
  mvcgen [symbol]
  exact allNamed_drop ‹_› _

@[spec] theorem symbol?_keeps (chars : List Char) : Keeps (symbol? chars) := by
  mvcgen [symbol?]
  exact allNamed_drop ‹_› _

@[spec] theorem keyword_keeps (word : String) : Keeps (keyword word) := by
  mvcgen [keyword]
  exact allNamed_drop ‹_› _

@[spec] theorem keyword?_keeps (word : String) : Keeps (keyword? word) := by
  mvcgen [keyword?]
  exact allNamed_drop ‹_› _

@[spec] theorem anyWord_reads : Reads anyWord IsName := by
  mvcgen [anyWord]

@[spec] theorem freeWord_reads : Reads freeWord IsName := by
  mvcgen [freeWord]

@[spec] theorem lifetime_keeps : Keeps lifetime := by
  mvcgen [lifetime]
  simp_all

@[spec] theorem atEnd_keeps : Keeps atEnd := by
  mvcgen [atEnd]

@[spec] theorem group_reads (delimiter : Delimiter) : Reads (group delimiter) AllNamed := by
  mvcgen [group]

@[spec] theorem anyGroup_reads : Reads anyGroup AllNamed := by
  mvcgen [anyGroup]

@[spec] theorem through_keeps (last : Token → Bool) : Keeps (through last) := by
  mvcgen [through]
  next tokens named token rest found =>
    have suffix := List.dropWhile_suffix (l := tokens) (fun token => !last token)
    rw [found] at suffix
    exact named.of_suffix ((List.suffix_cons token rest).trans suffix)

-----------------------------------------------------------------------------------------
-- Repetitions
-----------------------------------------------------------------------------------------

theorem untilWithin_keeps (keeps : Keeps parser) (stop : List Token → Bool) (bound : Nat)
    : Keeps (untilWithin stop parser bound) := by
  induction bound with
  | zero => mvcgen [untilWithin]
  | succ bound ih => mvcgen [untilWithin, keeps, ih]

theorem untilWithin_reads {property : α → Prop} (reads : Reads parser property)
    (stop : List Token → Bool) (bound : Nat)
    : Reads (untilWithin stop parser bound) (∀ value ∈ ·, property value) := by
  induction bound with
  | zero =>
      mvcgen [untilWithin]
      simp_all
  | succ bound ih => mvcgen [untilWithin, reads, ih] <;> simp_all

theorem separatedWithin_keeps (keeps : Keeps parser) (stop : List Token → Bool)
    (separator : Char) (bound : Nat)
    : Keeps (separatedWithin stop separator parser bound) := by
  induction bound with
  | zero => mvcgen [separatedWithin]
  | succ bound ih => mvcgen [separatedWithin, keeps, ih]

@[spec] theorem outerAttributes_keeps : Keeps outerAttributes := by
  mvcgen [outerAttributes, untilAhead, untilWithin_keeps]
  simp_all

@[spec] theorem innerAttributes_keeps : Keeps innerAttributes := by
  mvcgen [innerAttributes, untilAhead, untilWithin_keeps]
  simp_all

@[spec] theorem pathName_keeps : Keeps pathNames.pathName := by
  mvcgen [pathNames.pathName]
  simp_all

@[spec] theorem plainPath_keeps : Keeps plainPath := by
  mvcgen [plainPath, pathNames, untilAhead, untilWithin_keeps]

@[spec] theorem visibility_keeps : Keeps visibility := by
  mvcgen [visibility, spelled] <;> simp_all

-----------------------------------------------------------------------------------------
-- Types
-----------------------------------------------------------------------------------------

/-- The parsers of types and of their parts leave named tokens, down to a depth. -/
private structure TypesKeep (bound : Nat) : Prop where
  type : ∀ plus, Keeps (typeWithin bound plus)
  shape : ∀ plus, Keeps (shapeWithin bound plus)
  traits : ∀ plus, Keeps (traitsWithin bound plus)
  bounds : ∀ plus, Keeps (boundsWithin bound plus)
  oneBound : Keeps (boundWithin bound)
  trait : Keeps (traitWithin bound)
  lifetimeBinder : Keeps (lifetimeBinderWithin bound)
  lifetimeParameter : Keeps (lifetimeParameterWithin bound)
  functionType : Keeps (functionTypeWithin bound)
  path : Keeps (pathWithin bound)
  restOfPath : ∀ path, Keeps (restOfPathWithin bound path)
  segment : Keeps (segmentWithin bound)
  argument : Keeps (argumentWithin bound)

/-- Witness: induction on the depth; every parser is made of parsers at a smaller depth. -/
private theorem typesKeep (bound : Nat) : TypesKeep bound := by
  induction bound with
  | zero => constructor <;> intros <;> exact triple_iff.mpr fun _ _ _ _ found => nomatch found
  | succ bound ih =>
      obtain ⟨type, shape, traits, bounds, oneBound, trait, lifetimeBinder, lifetimeParameter,
        functionType, path, restOfPath, segment, argument⟩ := ih
      have captured : Keeps (lifetime <|> (fun _ => ()) <$> anyWord) := by
        refine orElse_keeps lifetime_keeps ?_
        mvcgen
        exact fun _ named => named
      exact {
        type := fun plus => by mvcgen [typeWithin, spelled, shape]
        shape := fun plus => by
          mvcgen [shapeWithin, type, traits, bounds, lifetimeBinder, functionType, path]
            <;> simp_all
        traits := fun plus => by mvcgen [traitsWithin, bounds]
        bounds := fun plus => by mvcgen [boundsWithin, oneBound, bounds]
        oneBound := by mvcgen [boundWithin, trait, separatedWithin_keeps, captured] <;> simp_all
        trait := by mvcgen [traitWithin, lifetimeBinder, path]
        lifetimeBinder := by
          mvcgen [lifetimeBinderWithin, separatedWithin_keeps, lifetimeParameter]
        lifetimeParameter := by mvcgen [lifetimeParameterWithin, separatedWithin_keeps]
        functionType := by mvcgen [functionTypeWithin, type] <;> simp_all
        path := by mvcgen [pathWithin, type, path, segment, restOfPath]
        restOfPath := fun before => by
          mvcgen [restOfPathWithin, type, segment, restOfPath]
          simp_all
        segment := by mvcgen [segmentWithin, separatedWithin_keeps, argument] <;> simp_all
        argument := by mvcgen [argumentWithin, spelled, shape, argument, bounds] <;> simp_all }

@[spec] theorem typeExpr_keeps : Keeps typeExpr := by
  have type (bound : Nat) := (typesKeep bound).type true
  mvcgen [typeExpr, type]

@[spec] theorem bounds_keeps : Keeps bounds := by
  have keeps (bound : Nat) := (typesKeep bound).bounds true
  mvcgen [bounds, keeps]

@[spec] theorem lifetimeBinder_keeps : Keeps lifetimeBinder := by
  have binder (bound : Nat) := (typesKeep bound).lifetimeBinder
  mvcgen [lifetimeBinder, binder]

@[spec] theorem lifetimeParameter_keeps : Keeps lifetimeParameter := by
  have parameter (bound : Nat) := (typesKeep bound).lifetimeParameter
  mvcgen [lifetimeParameter, parameter]

-----------------------------------------------------------------------------------------
-- Declarations
-----------------------------------------------------------------------------------------

@[spec] theorem genericParameter_keeps : Keeps genericParameter := by
  mvcgen [genericParameter, genericParameter.constant] <;> simp_all

@[spec] theorem generics_keeps : Keeps generics := by
  mvcgen [generics, spelled, separated, separatedWithin_keeps]

@[spec] theorem condition_keeps : Keeps condition := by
  mvcgen [condition]

@[spec] theorem whereClause_keeps : Keeps whereClause := by
  mvcgen [whereClause, spelled, separated, separatedWithin_keeps]

@[spec] theorem structureBody_keeps : Keeps structureBody := by
  mvcgen [structureBody] <;> simp_all

@[spec] theorem bodyOf_keeps (word : String) : Keeps (bodyOf word) := by
  mvcgen [bodyOf] <;> simp_all

/-- A declaration has the name that it reads behind its keyword. -/
@[spec] theorem declarationAfter_reads (attributes : List Attribute) (visibility : List Token)
    : Reads (declarationAfter attributes visibility) fun read => IsName read.1.name := by
  mvcgen [declarationAfter] <;> simp_all

-----------------------------------------------------------------------------------------
-- Expressions
-----------------------------------------------------------------------------------------

/-- The parsers of expressions and of their parts leave named tokens, down to a depth. -/
private structure ExpressionsKeep (bound : Nat) : Prop where
  expression : ∀ builds, Keeps (expressionWithin bound builds)
  operations : ∀ builds, Keeps (operationsWithin bound builds)
  operand : ∀ builds, Keeps (operandWithin bound builds)
  suffixes : ∀ before, Keeps (suffixesWithin bound before)
  primary : ∀ builds, Keeps (primaryWithin bound builds)
  headedBlock : Keeps (headedBlockWithin bound)
  pathOperand : ∀ builds, Keeps (pathOperandWithin bound builds)
  names : Keeps (namesWithin bound)
  closure : ∀ builds, Keeps (closureWithin bound builds)

@[spec] theorem operator?_keeps : Keeps operator? := by
  mvcgen [operator?]

private theorem afterPattern_suffix (tokens : List Token) : afterPattern tokens <:+ tokens := by
  fun_induction afterPattern tokens with
  | case1 _ rest ih => exact ih.trans ((List.suffix_cons _ _).trans (List.suffix_cons _ _))
  | case2 => exact List.suffix_cons _ _
  | case3 _ rest _ _ ih => exact ih.trans (List.suffix_cons _ _)
  | case4 => exact List.nil_suffix

/-- Witness: induction on the depth, as for types. -/
private theorem expressionsKeep (bound : Nat) : ExpressionsKeep bound := by
  induction bound with
  | zero => constructor <;> intros <;> exact triple_iff.mpr fun _ _ _ _ found => nomatch found
  | succ bound ih =>
      obtain ⟨expression, operations, operand, suffixes, primary, headedBlock, pathOperand, names,
        closure⟩ := ih
      have type := (typesKeep bound).type
      have binder := (typesKeep bound).lifetimeBinder
      have path := (typesKeep bound).path
      have argument := (typesKeep bound).argument
      exact {
        expression := fun builds => by mvcgen [expressionWithin, operand, operations]
        operations := fun builds => by mvcgen [operationsWithin, operand, operations, type]
        operand := fun builds => by
          mvcgen [operandWithin, operand, primary, suffixes] <;> simp_all
        suffixes := fun before => by
          mvcgen [suffixesWithin, suffixes, separatedWithin_keeps, argument] <;> simp_all
        primary := fun builds => by
          mvcgen [primaryWithin, primary, headedBlock, closure, operand, expression, pathOperand]
            <;> simp_all [AllNamed.of_suffix _ (afterPattern_suffix _)]
        headedBlock := by
          mvcgen [headedBlockWithin, expression]
          simp_all
        pathOperand := fun builds => by
          mvcgen [pathOperandWithin, type, path, names] <;> simp_all
        names := by mvcgen [namesWithin, names, separatedWithin_keeps, argument] <;> simp_all
        closure := fun builds => by
          mvcgen [closureWithin, binder, type, expression] <;> simp_all }

@[spec] theorem expression_keeps : Keeps expression := by
  have expressions (bound : Nat) := (expressionsKeep bound).expression
  mvcgen [expression, expressions]

-----------------------------------------------------------------------------------------
-- Items
-----------------------------------------------------------------------------------------

@[spec] theorem signature_keeps (attributes : List Attribute) : Keeps (signature attributes) := by
  mvcgen [signature, spelled] <;> simp_all

@[spec] theorem toSemicolon_keeps : Keeps toSemicolon := by
  mvcgen [toSemicolon]

@[spec] theorem valueItem_keeps : Keeps valueItem := by
  mvcgen [valueItem]
  simp_all

@[spec] theorem useItem_keeps : Keeps useItem := by
  mvcgen [useItem]

@[spec] theorem aliasItem_keeps : Keeps aliasItem := by
  mvcgen [aliasItem]
  simp_all

@[spec] theorem traitItem_keeps : Keeps traitItem := by
  mvcgen [traitItem] <;> simp_all

@[spec] theorem implFront_keeps : Keeps implFront := by
  mvcgen [implFront]

@[spec] theorem implItem_keeps : Keeps implItem := by
  mvcgen [implItem] <;> simp_all

@[spec] theorem externItem_keeps : Keeps externItem := by
  mvcgen [externItem] <;> simp_all

@[spec] theorem macroItem_keeps : Keeps macroItem := by
  mvcgen [macroItem] <;> simp_all

@[spec] theorem otherItem_keeps (visible : Bool) : Keeps (otherItem visible) := by
  mvcgen [otherItem, throughBlock] <;> simp_all

-----------------------------------------------------------------------------------------
-- Modules
-----------------------------------------------------------------------------------------

@[simp] private theorem Module.named_mk (head : List Token) (name : String)
    (body : Option ModuleBody)
    : Module.Named ⟨head, name, body⟩
      ↔ IsName name ∧ ∀ found, body = some found → ∀ item ∈ found.items, item.Named :=
  ⟨fun named => ⟨named.name, named.items⟩, fun named => ⟨named.1, named.2⟩⟩

private theorem wp_option (option : Option α)
    : (wp⟦option⟧ (fun _ => ⌜True⌝, ExceptConds.true)).down := by
  cases option <;> exact True.intro

/-- What is read of modules has names, down to a depth. -/
private structure ModulesRead (bound : Nat) : Prop where
  module : ∀ front, Reads (moduleWithin bound front) Module.Named
  body : Reads (bodyWithin bound) fun body => ∀ item ∈ body.items, item.Named
  item : Reads (itemWithin bound) Item.Named

/-- Witness: induction on the depth; the items of a module are read inside of its group. -/
private theorem modulesRead (bound : Nat) : ModulesRead bound := by
  induction bound with
  | zero => constructor <;> intros <;> exact triple_iff.mpr fun _ _ _ _ found => nomatch found
  | succ bound ih =>
      obtain ⟨module, body, item⟩ := ih
      refine ⟨fun front => ?_, ?_, ?_⟩
      · have inner {contents : List Token} (named : AllNamed contents) := inside_reads named body
        mvcgen [moduleWithin, spelled, inner, -inside_keeps] <;> simp_all
      · have items := untilWithin_reads item
        mvcgen [bodyWithin, spelled, toEnd, untilAhead, items]
      · mvcgen [itemWithin, spelled, module] <;> simp_all [Item.Named]
        exact wp_option _

/-- A module that is read from named tokens has names. -/
theorem Module.named_of_read? {tokens : List Token} {read : Module} (named : AllNamed tokens)
    (found : Module.read? tokens = some read)
    : read.Named := by
  have reads : Reads module Module.Named := by
    have modules (bound : Nat) := (modulesRead bound).module
    mvcgen [module, spelled, modules]
  exact (triple_iff.mp reads tokens read [] named (readAll_iff.mp found)).1

end EntityStore.Source

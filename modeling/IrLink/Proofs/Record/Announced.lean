import IrLink.Proofs.Record.Effects
import IrLink.Proofs.Record.Names

/-!
# Symbols before declarations

The symbol of a declaration is linked before the declaration is made known
(`Record.announced_trace`), so that its descriptor is settled by then.
-/

namespace IrLink

/-- One of some steps links the symbol with an identifier. -/
def Uses (steps : List LinkStep) (id : UInt64) : Prop :=
  ∃ requirement record, .use requirement record ∈ steps ∧ record.uniqueId.index = id

/-- The symbol of a declaration is linked before the declaration is made known. -/
def Announced (steps : List LinkStep) : Prop :=
  ∀ before id after, steps = before ++ .declare id :: after → Uses before id

section Steps

variable {steps others : List LinkStep} {id : UInt64}

theorem Uses.mono (uses : Uses steps id) (among : steps ⊆ others) : Uses others id :=
  uses.imp fun _ => .imp fun _ => .imp_left (@among _)

namespace Announced

theorem ofNone (none : ∀ id, .declare id ∉ steps) : Announced steps := by
  rintro before id after rfl
  exact absurd (List.mem_append_right before (.head after)) (none id)

theorem append (first : Announced steps) (second : Announced others) :
    Announced (steps ++ others) := by
  intro before id after parted
  rcases List.append_eq_append_iff.mp parted with ⟨front, rfl, rest⟩ | ⟨tail, rfl, rest⟩
  · exact (second front id after rest).mono (List.subset_append_right steps front)
  · cases tail with
    | nil => exact (second [] id after rest.symm).mono (List.nil_subset _)
    | cons step tail =>
        cases rest
        exact first before id tail rfl

/-- A declaration is made known after everything that links its symbol. -/
theorem declare (announced : Announced steps) (uses : Uses steps id) :
    Announced (steps ++ [.declare id]) := by
  intro before other after parted
  rcases List.append_eq_append_iff.mp parted with ⟨front, rfl, rest⟩ | ⟨tail, rfl, rest⟩
  · cases front with
    | nil =>
        cases rest
        rwa [List.append_nil]
    | cons step front =>
        have long := congrArg List.length rest
        simp at long
  · cases tail with
    | nil =>
        cases rest
        rwa [List.append_nil] at uses
    | cons step tail =>
        cases rest
        exact announced before other tail rfl

theorem flatMap {depth : Nat} {items : List Item}
    (each : ∀ item ∈ items, Announced (item.trace depth)) :
    Announced (items.flatMap (Item.trace depth)) := by
  induction items with
  | nil => exact ofNone fun _ => List.not_mem_nil
  | cons item items inductionHypothesis =>
      rw [List.flatMap_cons]
      exact (each item (.head items)).append
        (inductionHypothesis fun other among => each other (.tail item among))

end Announced

/-- Steps without effects make no declaration known. -/
theorem declare_not_mem (without : (Item.steps steps).flatMap Item.effects = []) :
    .declare id ∉ steps := by
  intro among
  have inside := List.flatMap_eq_nil_iff.mp without _ (List.mem_map_of_mem among)
  cases inside

end Steps

namespace Record

variable {c : Category}

/-- The symbol of a function is linked first. -/
theorem uses_functionSymbol (function : Record .function) (depth : Nat) :
    Uses (function.trace depth) function.functionSymbol.uniqueId.index := by
  rw [trace_of_takesNoLevel rfl]
  cases function with
  | functionNode symbol => exact ⟨.declaredFunction, symbol, .head _, rfl⟩

/-- The symbol of a field is linked first. -/
theorem uses_fieldSymbol (field : Record .field) (depth : Nat) :
    Uses (field.trace depth) field.fieldSymbol.uniqueId.index := by
  rw [trace_of_takesNoLevel rfl]
  cases field with
  | fieldNode symbol => exact ⟨.declaredField, symbol, .head _, rfl⟩

/-- A declarator links its symbol. -/
theorem uses_declaredSymbol {declarator : Record .declarator} {symbol : SymbolRecord}
    (declared : declarator.declaredSymbol? = .some symbol) (depth : Nat) :
    Uses (declarator.trace depth) symbol.uniqueId.index := by
  rw [trace_of_takesNoLevel rfl]
  cases declarator with
  | unsetDeclarator => cases declared
  | typeAlias => cases declared
  | property => cases declared
  | anonymousInitializer =>
      cases declared
      exact ⟨.declaredInitializer, symbol, .head _, rfl⟩
  | classDeclarator =>
      cases declared
      exact ⟨.declaredClass, symbol, .head _, rfl⟩
  | constructorDeclarator =>
      cases declared
      exact ⟨.declaredConstructor, symbol, .head _, rfl⟩
  | enumEntry =>
      cases declared
      exact ⟨.declaredEnumEntry, symbol, .head _, rfl⟩
  | fieldDeclarator field =>
      cases declared
      exact (uses_fieldSymbol field depth).mono (List.subset_append_left _ _)
  | functionDeclarator function =>
      cases declared
      exact (uses_functionSymbol function depth).mono (List.subset_append_left _ _)
  | variableDeclarator _ _ _ _ initializer =>
      cases declared
      exact ⟨.declaredVariable, symbol, List.mem_append_right _ (.head _), rfl⟩

/-- A record makes at most one declaration known by itself.  It does so after everything
else, which links the symbol of the declaration. -/
theorem exists_declareStep (record : Record c) :
    ∃ front symbol, record.layout = front ++ Item.steps (declareStep symbol) ∧
      (∀ id, .step (.declare id) ∉ front) ∧
      ∀ found : SymbolRecord, symbol = .some found → ∀ depth,
        Uses (front.flatMap (Item.trace depth)) found.uniqueId.index := by
  have single (none : ∀ id, .step (.declare id) ∉ record.layout) :
      ∃ front symbol, record.layout = front ++ Item.steps (declareStep symbol) ∧
        (∀ id, .step (.declare id) ∉ front) ∧
        ∀ found : SymbolRecord, symbol = .some found → ∀ depth,
          Uses (front.flatMap (Item.trace depth)) found.uniqueId.index :=
    ⟨record.layout, .none, (List.append_nil _).symm, none, fun _ isSome => by cases isSome⟩
  cases record
  case declarationNode origin annotations file declarator =>
      refine ⟨Item.steps (originCheck origin) ++ [.part declarator, .part annotations],
        declarator.declaredSymbol?, ?_, fun id => ?_, fun found declared depth => ?_⟩
      · simp [layout]
      · simp [Item.steps, declare_not_mem (effects_originCheck origin)]
      · refine (uses_declaredSymbol declared depth).mono fun step among => ?_
        simp [Item.trace, among]
  case asAccessor function =>
      refine ⟨[.part function], .some function.functionSymbol, rfl, by simp, ?_⟩
      rintro _ ⟨⟩ depth
      exact (uses_functionSymbol function depth).mono (List.subset_append_left _ _)
  case asBranch statement | asCatch statement | asBody statement =>
      exact single fun id => by cases statement <;> simp [layout, Item.refuse]
  case getField access type =>
      refine single fun id => ?_
      cases access
      simp [layout, Item.use, Item.uses, Item.steps]
  all_goals
    refine single fun id => ?_
    simp [layout, Item.refuse, Item.use, Item.uses, Item.steps,
      declare_not_mem (effects_constantCheck _), declare_not_mem (effects_operandCheck _),
      declare_not_mem (effects_parameterCheck _), declare_not_mem (effects_entryClassCheck _)]

/-- The symbol of a declaration is linked before the declaration is made known. -/
theorem announced_trace (record : Record c) (depth : Nat) : Announced (record.trace depth) := by
  induction record using layout_induction generalizing depth with
  | @node c record inside =>
      have items (inner : Nat) : Announced (record.layout.flatMap (Item.trace inner)) := by
        rcases record.exists_declareStep with ⟨front, symbol, parted, none, uses⟩
        have frontAnnounced : Announced (front.flatMap (Item.trace inner)) := by
          refine .flatMap fun item among => ?_
          cases item with
          | step own =>
              refine .ofNone fun id isOwn => ?_
              rw [← List.mem_singleton.mp isOwn] at among
              exact none id among
          | part part => exact inside part (parted ▸ List.mem_append_left _ among) inner
        rw [parted, List.flatMap_append, Item.flatMap_trace_steps]
        cases symbol with
        | none => rwa [declareStep, Option.toList_none, List.map_nil, List.append_nil]
        | some found => exact frontAnnounced.declare (uses found rfl inner)
      cases takes : c.takesLevel with
      | true =>
          rw [trace_of_takesLevel takes]
          rw [← List.singleton_append]
          exact (Announced.ofNone fun id => by simp).append (items (depth + 1))
      | false =>
          rw [trace_of_takesNoLevel takes]
          exact items depth

end Record

end IrLink

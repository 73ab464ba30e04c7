import IrLink.Proofs.Decode.Creation
import IrLink.Proofs.Decode.Registration
import IrLink.Proofs.Decode.Sharing
import IrLink.Proofs.Tree.Links

/-!
# Bound symbols

Whether a symbol is bound is told by its binding, and whether a declaration is made known by
the identity of its descriptor.  Over a universe without placeholders these agree in all
states of a session, as every symbol is well bound (`Symbol.WellBound`): its descriptor is
that of a built-in, or the entity that the record means from which it was made, or else the
placeholder of its kind (`Chronicle.symbols_bound`).
-/

namespace IrLink

/-! ## Symbols -/

namespace Symbol

variable {symbol : Symbol} {declaration : Tree .declaration}

/-- A symbol of a session is bound as it should be.  It is that of a built-in, or was made
from a single record, which describes it.  If it is bound, its descriptor is real, is that of
the built-in or what the reference of the record means, and is of an accepted kind if kinds
are checked.  Otherwise the record had no reference, and the descriptor is the placeholder of
the kind of the symbol, which that kind accepts. -/
structure WellBound (environment : Environment) (operations : List Operation)
    (symbol : Symbol) : Prop where
  origin : (∃ builtin ∈ Builtin.all, builtin.symbol = symbol) ∨
    ∃! record : SymbolRecord, record.Makes environment operations symbol
  described : ∀ record : SymbolRecord, record.Makes environment operations symbol →
    record.Describes environment symbol
  bound : ∀ descriptor, symbol.bound = some descriptor →
    symbol.descriptor = descriptor ∧ descriptor.isPlaceholder = false ∧
      (environment.settings.checkSymbolKinds = true →
        symbol.kind.accepts descriptor.kind = true) ∧
      ((∃ builtin ∈ Builtin.all, builtin.symbol = symbol) ∨
        ∃ (record : SymbolRecord) (reference : DescriptorReference),
          record.Makes environment operations symbol ∧ record.reference = some reference ∧
            environment.world.resolve? reference = some descriptor)
  unbound : symbol.bound = none →
    (∃ record : SymbolRecord, record.Makes environment operations symbol ∧
        record.reference = none) ∧
      symbol.descriptor = .placeholder symbol.kind.placeholderKind ∧
      symbol.kind.accepts symbol.descriptor.kind = true

/-- A symbol, its descriptor and its declarations agree on whether it is bound. -/
structure Agrees (symbol : Symbol) : Prop where
  descriptor : symbol.isBound = !symbol.descriptor.isPlaceholder
  declaration : ∀ declaration : Tree .declaration,
    declaration.declarator.declaredSymbol? = some symbol →
      declaration.descriptor = symbol.descriptor ∧
        declaration.backingDescriptor? = symbol.bound ∧
        declaration.backingDescriptor?.isSome = symbol.isBound

/-- A symbol that is bound to no placeholder agrees with its descriptor and its
declarations. -/
theorem Agrees.of_real (real : ∀ descriptor, symbol.bound = some descriptor →
    descriptor.isPlaceholder = false) : symbol.Agrees := by
  have bound_eq : symbol.bound =
      if symbol.descriptor.isPlaceholder then none else some symbol.descriptor := by
    unfold Symbol.descriptor
    cases found : symbol.bound with
    | none => rfl
    | some descriptor => simp [real descriptor found]
  refine ⟨?_, fun declaration declares => ?_⟩
  · rw [isBound, bound_eq]
    cases symbol.descriptor.isPlaceholder <;> rfl
  · have described : declaration.descriptor = symbol.descriptor := by
      unfold Tree.descriptor Tree.declaredDescriptor
      rw [declares]
    have backed : declaration.backingDescriptor? = symbol.bound :=
      (Tree.backingDescriptor?_of_some declares).trans bound_eq.symm
    exact ⟨described, backed, congrArg Option.isSome backed⟩

end Symbol

/-- Built-ins are bound to real descriptors of accepted kinds. -/
theorem Builtin.symbol_bound : ∀ builtin ∈ all, ∃ descriptor,
    builtin.symbol.bound = some descriptor ∧ descriptor.isPlaceholder = false ∧
      builtin.symbol.kind.accepts descriptor.kind = true := by
  have checked : ∀ builtin ∈ all, builtin.symbol.bound.any (fun descriptor =>
      !descriptor.isPlaceholder && builtin.symbol.kind.accepts descriptor.kind) = true := by
    decide
  intro builtin among
  obtain ⟨descriptor, bound, fits⟩ := (Option.any_eq_true _ _).mp (checked builtin among)
  rw [Bool.and_eq_true, Bool.not_eq_true'] at fits
  exact ⟨descriptor, bound, fits⟩

variable {environment : Environment} {state : State} {operations : List Operation}
  {responses : List Response} {symbol : Symbol}

/-- The symbol of a declaration inside a tree is inside the tree. -/
theorem Tree.mem_symbols_of_declares {c : Category} {tree : Tree c}
    {declaration : Tree .declaration} (inside : declaration ∈ tree.declarationNodes)
    (declares : declaration.declarator.declaredSymbol? = .some symbol) : symbol ∈ tree.symbols := by
  obtain ⟨requirement, marked⟩ :=
    marked_of_declares (mem_declarationNodes_iff.mp inside) declares
  exact mem_symbols_of_marked marked

/-- A declaration of a session, in an answer or inside a known declaration. -/
def State.Holds (state : State) (responses : List Response) (declaration : Tree .declaration) :
    Prop :=
  (∃ response ∈ responses, declaration ∈ response.declarationNodes) ∨
    ∃ id holder, state.Registers id holder ∧ declaration ∈ holder.declarationNodes

/-- The symbol of a declaration of a session is a symbol of the session. -/
theorem State.Holds.uses {declaration : Tree .declaration}
    (holds : state.Holds responses declaration)
    (declares : declaration.declarator.declaredSymbol? = some symbol) :
    state.Uses responses symbol := by
  rcases holds with ⟨response, among, inside⟩ | ⟨id, holder, registered, inside⟩
  · obtain ⟨root, isRoot, inside⟩ := List.mem_flatMap.mp inside
    have used := Tree.mem_symbols_of_declares inside declares
    exact .inl ⟨response, among,
      List.mem_append_right _ (List.mem_flatMap.mpr ⟨root, isRoot, used⟩)⟩
  · exact .inr ⟨id, holder, registered, Tree.mem_symbols_of_declares inside declares⟩

/-! ## Sessions -/

/-- The result of a run, if it ended well. -/
def result? {ε σ α : Type} : EStateM.Result ε σ α → Option α
  | .ok result _ => some result
  | .error _ _ => none

/-- The answer that an operation gave, if it succeeded. -/
def Operation.answer? (environment : Environment) (operation : Operation) : Option Response :=
  result? (operation.request.answer environment operation.before)

namespace Chronicle

/-- The answers of a chronicle are those of a history. -/
theorem history (chronicle : Chronicle environment state operations) :
    History environment state (operations.filterMap (Operation.answer? environment)) := by
  induction chronicle with
  | start => exact .start
  | @step state operations chronicle request inductionHypothesis =>
    have ends := request.finalState_answer environment state
    rw [List.filterMap_cons, Operation.answer?]
    cases run : request.answer environment state with
    | ok response after =>
      rw [run] at ends
      cases ends
      exact inductionHypothesis.answered request run
    | error error after =>
      rw [run] at ends
      cases ends
      exact inductionHypothesis.failed request run

/-- Over a universe without placeholders every known symbol is well bound. -/
theorem wellBound (chronicle : Chronicle environment state operations)
    (real : environment.world.IsReal) (known : state.Knows symbol) :
    symbol.WellBound environment operations := by
  have described {record : SymbolRecord} (makes : record.Makes environment operations symbol) :=
    chronicle.describes_of_makes makes
  refine ⟨?origin, fun record => described, ?bound, ?unbound⟩
  case origin =>
    refine (chronicle.builtin_or_made known).imp_right ?_
    rintro ⟨record, makes⟩
    exact ⟨record, makes, fun other alsoMakes => chronicle.makes_unique alsoMakes makes⟩
  case bound =>
    intro descriptor bound
    have describes : symbol.descriptor = descriptor := by rw [Symbol.descriptor, bound]; rfl
    rcases chronicle.builtin_or_made known with ⟨builtin, among, rfl⟩ | ⟨record, makes⟩
    · obtain ⟨_, alsoBound, isReal, fits⟩ := Builtin.symbol_bound builtin among
      cases bound.symm.trans alsoBound
      exact ⟨describes, isReal, fun _ => fits, .inl ⟨builtin, among, rfl⟩⟩
    · obtain ⟨reference, recorded, resolves, fits⟩ := (described makes).bound descriptor bound
      exact ⟨describes, real descriptor (Universe.contains_of_resolve? resolves), fits,
        .inr ⟨record, reference, makes, recorded, resolves⟩⟩
  case unbound =>
    intro unbound
    have describes : symbol.descriptor = .placeholder symbol.kind.placeholderKind := by
      rw [Symbol.descriptor, unbound]
      rfl
    rcases chronicle.builtin_or_made known with ⟨builtin, among, rfl⟩ | ⟨record, makes⟩
    · obtain ⟨_, bound, -⟩ := Builtin.symbol_bound builtin among
      cases unbound.symm.trans bound
    · exact ⟨⟨record, makes, (described makes).unbound unbound⟩, describes,
        describes ▸ symbol.kind.accepts_placeholder⟩

end Chronicle

/-- At every point of a session over a universe without placeholders the known symbols are
well bound, and their declarations, their descriptors and they themselves agree on whether they
are bound.  These are all symbols in the answers of the session and in its known declarations,
and the symbols of all declarations there.  Linking a symbol that fails changes nothing, so
that a record with the same identifier still gives what it gave before; and one that succeeds
gives the known symbol or makes a new one, and leaves all others. -/
theorem Chronicle.symbols_bound :
    (∀ (environment : Environment) (state : State) (operations : List Operation),
      environment.world.IsReal → Chronicle environment state operations →
        let responses := operations.filterMap (Operation.answer? environment)
        (∀ id symbol, state.cachedSymbol? id = some symbol →
          symbol.id = id ∧ symbol.WellBound environment operations ∧ symbol.Agrees) ∧
        (∀ symbol, state.Uses responses symbol →
          state.cachedSymbol? symbol.id = some symbol) ∧
        ∀ declaration, state.Holds responses declaration →
          ∀ symbol, declaration.declarator.declaredSymbol? = some symbol →
            state.cachedSymbol? symbol.id = some symbol) ∧
    ∀ (environment : Environment) (state : State) (record : SymbolRecord),
      (∀ error after, Decode.resolveSymbol record environment state = .error error after →
        after = state ∧ ∀ (good : SymbolRecord) (symbol : Symbol) (next : State),
          good.uniqueId.index = record.uniqueId.index →
            good.Gives environment state symbol next →
              Decode.resolveSymbol good environment after = .ok symbol next) ∧
      ∀ symbol after, Decode.resolveSymbol record environment state = .ok symbol after →
        record.Gives environment state symbol after ∧
          ∀ id, id ≠ record.uniqueId.index →
            after.cachedSymbol? id = state.cachedSymbol? id := by
  refine ⟨fun environment state operations real chronicle => ⟨?bound, ?used, ?declared⟩,
    fun environment state record => ⟨?fails, ?succeeds⟩⟩
  case bound =>
    intro id symbol known
    have same : symbol.id = id := chronicle.reachable.keyed id symbol known
    have wellBound := chronicle.wellBound real (same ▸ known)
    exact ⟨same, wellBound, .of_real fun descriptor bound => (wellBound.bound descriptor bound).2.1⟩
  case used => exact fun symbol => chronicle.history.knows_of_uses
  case declared =>
    intro declaration holds symbol declares
    exact chronicle.history.knows_of_uses (holds.uses declares)
  case fails =>
    intro error after fails
    cases Decode.state_of_resolveSymbol_error fails
    exact ⟨rfl, fun good symbol next _ gives => Decode.resolveSymbol_ok_iff_gives.mpr gives⟩
  case succeeds =>
    intro symbol after run
    refine ⟨Decode.resolveSymbol_ok_iff_gives.mp run, fun id other => ?_⟩
    have kept : (finalState (Decode.resolveSymbol record environment state)).cachedSymbol? id =
        state.cachedSymbol? id := Decode.symbols_of_resolveSymbol other
    rwa [run] at kept

/-- The universe of the variable contains no placeholder. -/
theorem Universe.ofVariable_isReal : Universe.ofVariable.IsReal := by
  intro descriptor contains
  cases contains with
  | entry found => exact isPlaceholder_of_entry found
  | packageMember among =>
    obtain ⟨entry, inside, rfl⟩ := List.mem_map.mp among
    cases List.mem_singleton.mp (List.mem_of_mem_filter inside)
    rfl
  | klass found => cases found
  | classMember found => cases found

/-- A record that refers to the variable by an index, which is seven. -/
def SymbolRecord.ofVariable (index : UInt64) : SymbolRecord :=
  ⟨.symbol .localVariable, ⟨1000, false⟩,
    some ⟨"p", "", "x", ⟨index, false⟩, false, false, false, false, false, false⟩⟩

/-- The variable that a block declares is bound, and a function without a reference is not.  A
reference to the variable by another index does not stand in the way of a later one. -/
theorem Chronicle.symbols_bound_localBlock :
    Universe.ofVariable.IsReal ∧
      (∃ state operations bound unbound, Chronicle ⟨.ofVariable, {}⟩ state operations ∧
        state.cachedSymbol? 1000 = some bound ∧ bound.isBound = true ∧
        bound.WellBound ⟨.ofVariable, {}⟩ operations ∧ bound.Agrees ∧
        state.cachedSymbol? 1001 = some unbound ∧ unbound.isBound = false ∧
        unbound.WellBound ⟨.ofVariable, {}⟩ operations ∧ unbound.Agrees) ∧
      ∃ error after symbol next,
        Decode.resolveSymbol (.ofVariable 8) ⟨.ofVariable, {}⟩ .initial = .error error after ∧
          Decode.resolveSymbol (.ofVariable 7) ⟨.ofVariable, {}⟩ after = .ok symbol next ∧
          symbol.isBound = true := by
  refine ⟨Universe.ofVariable_isReal, ?_, ?_⟩
  · obtain ⟨state, operations, chronicle, ⟨bound, boundKnown, isBound⟩, unbound, unboundKnown,
        notBound⟩ : ∃ state operations, Chronicle ⟨.ofVariable, {}⟩ state operations ∧
          (∃ symbol, state.cachedSymbol? 1000 = some symbol ∧ symbol.isBound = true) ∧
          ∃ symbol, state.cachedSymbol? 1001 = some symbol ∧ symbol.isBound = false :=
      ⟨_, _, (Chronicle.start.step (.expression .localBlock)).step
        (.symbol ⟨.symbol .function, ⟨1001, false⟩, none⟩), ⟨_, rfl, rfl⟩, _, rfl, rfl⟩
    have known := (symbols_bound.1 _ _ _ Universe.ofVariable_isReal chronicle).1
    obtain ⟨-, boundWell, boundAgrees⟩ := known 1000 bound boundKnown
    obtain ⟨-, unboundWell, unboundAgrees⟩ := known 1001 unbound unboundKnown
    exact ⟨state, operations, bound, unbound, chronicle, boundKnown, isBound, boundWell,
      boundAgrees, unboundKnown, notBound, unboundWell, unboundAgrees⟩
  · obtain ⟨error, after, fails⟩ : ∃ error after, Decode.resolveSymbol (.ofVariable 8)
        ⟨.ofVariable, {}⟩ .initial = .error error after := ⟨_, _, rfl⟩
    obtain ⟨symbol, next, run, isBound⟩ : ∃ symbol next, Decode.resolveSymbol (.ofVariable 7)
        ⟨.ofVariable, {}⟩ .initial = .ok symbol next ∧ symbol.isBound = true := ⟨_, _, rfl, rfl⟩
    have again := ((symbols_bound.2 _ _ _).1 error after fails).2 (.ofVariable 7) symbol next rfl
      (Decode.resolveSymbol_ok_iff_gives.mp run)
    exact ⟨error, after, symbol, next, fails, again, isBound⟩

end IrLink

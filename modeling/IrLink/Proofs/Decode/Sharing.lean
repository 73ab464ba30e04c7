import IrLink.Proofs.Decode.Faithful
import IrLink.Proofs.Decode.History

/-!
# Sharing of symbols

Every symbol of a session, wherever it stands in a tree that was handed out or in
a declaration that the session knows, is the one that the session knows under its
identifier.  That includes the unit type of the expressions that annotations stand for.
Symbols with one identifier are therefore the same.
-/

namespace IrLink

variable {environment : Environment} {state : State} {responses : List Response}

/-- The symbols of an answer, in all places. -/
def Response.symbols (response : Response) : List Symbol :=
  response.symbol?.toList ++ response.roots.flatMap fun root => root.tree.symbols

/-- A symbol of a session, in an answer or in a known declaration. -/
def State.Uses (state : State) (responses : List Response) (symbol : Symbol) : Prop :=
  (∃ response ∈ responses, symbol ∈ response.symbols) ∨
    ∃ id declaration, state.Registers id declaration ∧ symbol ∈ declaration.symbols

/-- The symbols of a tree are known where its marks are linked.  The unit type of annotations
is a built-in. -/
theorem Tree.symbols_known {c : Category} {tree : Tree c} (sound : state.Sound)
    (marked : ∀ mark ∈ tree.ownedMarks, mark.Holds environment state) :
    ∀ symbol ∈ tree.symbols, state.Knows symbol := by
  intro symbol among
  rcases List.mem_filterMap.mp among with ⟨mark, shown, same⟩
  rcases mem_marksOf_shown shown with inside | rfl
  · cases mark with
    | symbol requirement found =>
        cases same
        exact (marked _ (List.mem_append_right _ inside)).1
    | _ => cases same
  · cases same
    exact sound.builtins Builtin.all[2] (List.getElem_mem _)

namespace Response.Linked

/-- The symbols of an answer are known where it is linked. -/
theorem symbols_known {response : Response} (linked : response.Linked environment state)
    (sound : state.Sound) : ∀ symbol ∈ response.symbols, state.Knows symbol := by
  intro symbol among
  rcases List.mem_append.mp among with own | inside
  · exact linked.symbol symbol (Option.mem_toList.mp own)
  · rcases List.mem_flatMap.mp inside with ⟨root, isRoot, inside⟩
    have marked : ∀ mark ∈ root.tree.ownedMarks, mark.Holds environment state :=
      fun mark marked => linked.marks mark (List.mem_flatMap.mpr ⟨root, isRoot, marked⟩)
    exact Tree.symbols_known sound marked symbol inside

end Response.Linked

namespace History

/-- A symbol of a session is the one that is known under its identifier. -/
theorem knows_of_uses (history : History environment state responses) {symbol : Symbol}
    (uses : state.Uses responses symbol) : state.Knows symbol := by
  have settled := history.reachable.settled
  rcases uses with ⟨response, among, inside⟩ | ⟨id, declaration, registered, inside⟩
  · exact (history.linked response among).symbols_known settled.sound symbol inside
  · exact Tree.symbols_known settled.sound (settled.marked id declaration registered) symbol inside

/-- At every point of a session the symbols in all trees that were handed out and
in all known declarations, the types of annotations included, are those that are
known under their identifiers, and two of them with one identifier are the same. -/
theorem symbols_shared (history : History environment state responses) :
    (∀ symbol, state.Uses responses symbol →
      state.cachedSymbol? symbol.id = some symbol) ∧
    ∀ first second, state.Uses responses first → state.Uses responses second →
      first.id = second.id → first = second := by
  refine ⟨fun symbol uses => history.knows_of_uses uses, ?_⟩
  intro first second firstUses secondUses same
  have firstKnown : state.symbols[first.id]? = some first := history.knows_of_uses firstUses
  have secondKnown : state.symbols[second.id]? = some second :=
    history.knows_of_uses secondUses
  rw [same, secondKnown] at firstKnown
  exact (Option.some.inj firstKnown).symm

end History

/-- The record of a type with an annotation. -/
def Record.annotatedType : Record .type :=
  .dynamicType
    (.cons (.callNode ⟨.symbol .function, ⟨1000, false⟩, .none⟩ .none .ordinary
      (.accessNode .none .none .nil .nil)) .nil) .invariant

namespace History

/-- A symbol that was asked for by itself is the target of a later return, and an annotation
is of the known unit type. -/
theorem symbols_shared_earlyReturn :
    ∃ state asked built annotated target unit,
      History ⟨⟨"", .empty, [], []⟩, {}⟩ state [annotated, built, asked] ∧
      asked.symbol? = some target ∧ target.id = 1000 ∧
      (∃ found ∈ built.symbols, found.id = 1000 ∧ found = target) ∧
      unit ∈ annotated.symbols ∧ unit.id = 2 ∧ state.cachedSymbol? 2 = some unit := by
  have isUnit (call : Tree .call) : Builtin.symbolOf 2 "Unit" .klass ∈
      (Response.tree (Tree.dynamicType .invariant (.cons call .nil))).symbols := by
    have annotates : call ∈ (Tree.dynamicType .invariant (.cons call .nil)).annotations := by
      rw [Tree.annotations, Tree.typeAnnotations, Tree.toList]
      exact .head _
    have among : Builtin.symbolOf 2 "Unit" .klass ∈
        (Tree.dynamicType .invariant (.cons call .nil)).symbols :=
      Tree.mem_symbols_of_annotates (.head _) annotates (.head _)
    exact List.mem_append_right _ (List.mem_flatMap.mpr ⟨_, .head _, among⟩)
  have answers : ∃ target first built second call after found,
      (Request.symbol ⟨.symbol .function, ⟨1000, false⟩, none⟩).answer
          ⟨⟨"", .empty, [], []⟩, {}⟩ .initial = .ok (.symbol target) first ∧
        (Request.expression .earlyReturn).answer ⟨⟨"", .empty, [], []⟩, {}⟩ first =
          .ok built second ∧
        (Request.type .annotatedType).answer ⟨⟨"", .empty, [], []⟩, {}⟩ second =
          .ok (.tree (.dynamicType .invariant (.cons call .nil))) after ∧
        target.id = 1000 ∧ built.symbols[1]? = some found ∧ found.id = 1000 :=
    ⟨_, _, _, _, _, _, _, rfl, rfl, rfl, rfl, rfl, rfl⟩
  rcases answers with ⟨target, first, built, second, call, after, found, asks, builds, annotates,
    targetId, isFound, foundId⟩
  have history := ((History.start.answered _ asks).answered _ builds).answered _ annotates
  have among := List.mem_of_getElem? isFound
  refine ⟨after, _, built, _, target, _, history, rfl, targetId, ⟨found, among, foundId, ?_⟩,
    isUnit call, rfl, history.symbols_shared.1 _ (.inl ⟨_, .head _, isUnit call⟩)⟩
  refine history.symbols_shared.2 found target (.inl ⟨built, .tail _ (.head _), among⟩) ?_
    (foundId.trans targetId.symm)
  exact .inl ⟨_, .tail _ (.tail _ (.head _)), .head _⟩

end History

end IrLink

import IrLink.Proofs.Decode.Added
import IrLink.Proofs.Decode.Loader
import IrLink.Proofs.Decode.Registration

/-!
# What requests add

A request adds to the maps of a session and replaces nothing in them.  Which keys it adds is
said by the records that it decodes (`Request.decoded`): the one that it is about, or those
that a loader is given by its source, of which each adds its own (`Load.Adding`).  If the
request succeeds, the new symbols, loops and declarations are exactly those of everything
inside these records (`Request.InsertsAll`); if it fails, there are no others than those, and
the declarations among them are complete (`Request.Inserts`).
-/

namespace IrLink

variable {environment : Environment} {source : Source} {state after : State}

/-! ## Loaders -/

/-- The records of declarations that a source has under identifiers. -/
def Source.recordsUnder (source : Source) (ids : List UInt64) : List RecordNode :=
  ids.filterMap fun id => (source id).bind fun bytes =>
    (Record.ofBytes .declaration bytes).toOption.map RecordNode.mk

theorem Source.recordsUnder_append (source : Source) (ids others : List UInt64) :
    source.recordsUnder (ids ++ others) = source.recordsUnder ids ++ source.recordsUnder others :=
  List.filterMap_append

theorem Source.recordsUnder_singleton {id : UInt64} {bytes : List UInt8}
    {record : Record .declaration} (found : source id = some bytes)
    (read : Record.ofBytes .declaration bytes = .ok record) :
    source.recordsUnder [id] = [⟨record⟩] := by
  simp [Source.recordsUnder, found, read, Except.toOption]

theorem Source.recordsUnder_eq_nil {id : UInt64}
    (unread : ∀ bytes record, source id = some bytes →
      Record.ofBytes .declaration bytes ≠ .ok record) : source.recordsUnder [id] = [] := by
  cases found : source id with
  | none => simp [Source.recordsUnder, found]
  | some bytes =>
      cases read : Record.ofBytes .declaration bytes with
      | ok record => exact absurd read (unread bytes record found)
      | error fault => simp [Source.recordsUnder, found, read, Except.toOption]

namespace Load

variable {α β : Type} {computation : Load α} {rest : α → Load β}

/-- A loader adds to the session what is in the records that it asks for. -/
def Adding (environment : Environment) (source : Source) (computation : Load α) : Prop :=
  ∀ state : LoadState, state.session.Keyed → ∃ asked,
    (finalState (computation environment state)).asked = state.asked ++ asked ∧
    Adds environment (source.recordsUnder asked) state.session
      (finalState (computation environment state)).session ∧
    ∀ result after, computation environment state = .ok result after →
      AddsAll (source.recordsUnder asked) state.session after.session

namespace Adding

theorem pure (result : α) : Adding environment source (Pure.pure result : Load α) := by
  intro state keyed
  refine ⟨[], (List.append_nil _).symm, .nil keyed, ?_⟩
  rintro _ _ ⟨⟩
  exact .nil

theorem fail (error : DecodeError) : Adding environment source (throw error : Load α) := by
  intro state keyed
  refine ⟨[], (List.append_nil _).symm, .nil keyed, ?_⟩
  rintro _ _ ⟨⟩

theorem bind (first : Adding environment source computation)
    (second : ∀ result, Adding environment source (rest result)) :
    Adding environment source (computation >>= rest) := by
  intro state keyed
  rcases first state keyed with ⟨asked, notes, adds, all⟩
  cases run : computation environment state with
  | error error middle =>
      have ends : (computation >>= rest) environment state = .error error middle :=
        bind_error_iff.mpr (.inl run)
      rw [run] at notes adds
      rw [ends]
      refine ⟨asked, notes, adds, ?_⟩
      rintro _ _ ⟨⟩
  | ok a middle =>
      have ends : (computation >>= rest) environment state = rest a environment middle := by
        change EStateM.bind (computation environment) (fun a => rest a environment) state = _
        rw [EStateM.bind, run]
      rw [run] at notes adds
      rw [ends]
      rcases second a middle adds.keyed with ⟨others, notesRest, addsRest, allRest⟩
      refine ⟨asked ++ others, ?_, ?_, fun result after restRun => ?_⟩
      · rw [notesRest, ← List.append_assoc]
        exact congrArg (· ++ others) notes
      · rw [Source.recordsUnder_append]
        exact adds.append addsRest
      · rw [restRun] at addsRest
        rw [Source.recordsUnder_append]
        exact (all a middle run).append (allRest result after restRun) adds.precedes
          addsRest.precedes

/-- A declaration adds what is in its record, if there is one. -/
theorem declaration (source : Source) (file : String) (id : UniqueId) :
    Adding environment source (Load.declaration source file id) := by
  intro state keyed
  have linked (record : Record .declaration) : Adds environment [⟨record⟩] state.session
      (finalState (Decode.buildDeclaration record (.file file) environment state.session)) :=
    Decode.adds_of_build record (.file file) keyed
  cases run : Load.declaration source file id environment state with
  | ok tree after =>
      rcases declaration_ok_iff.mp run with ⟨bytes, record, session, found, read, built, rfl⟩
      have adds := linked record
      rw [built] at adds
      refine ⟨[id.index], rfl, ?_, ?_⟩
      · rw [Source.recordsUnder_singleton found read]
        exact adds
      · rintro _ _ ⟨⟩
        rw [Source.recordsUnder_singleton found read]
        exact Decode.addsAll_of_build keyed built
  | error error after =>
      refine ⟨[id.index], asked_of_declaration_error run, ?_, fun _ _ ends => nomatch ends⟩
      rcases declaration_error_iff.mp run with
        ⟨missing, rfl, rfl⟩ | ⟨bytes, fault, found, malformed, rfl, rfl⟩ |
          ⟨bytes, record, session, found, read, built, rfl⟩
      · rw [Source.recordsUnder_eq_nil fun bytes _ found => by cases missing.symm.trans found]
        exact .nil keyed
      · rw [Source.recordsUnder_eq_nil fun other record same read => by
          cases found.symm.trans same
          cases malformed.symm.trans read]
        exact .nil keyed
      · have adds := linked record
        rw [built] at adds
        rw [Source.recordsUnder_singleton found read]
        exact adds

theorem declarations (source : Source) (file : String) (ids : List UniqueId) :
    Adding environment source (Load.declarations source file ids) := by
  induction ids with
  | nil => exact .pure []
  | cons id ids inductionHypothesis =>
      exact .bind (.declaration source file id) fun _ =>
        .bind inductionHypothesis fun _ => .pure _

theorem file (source : Source) (header : FileRecord) :
    Adding environment source (Load.file source header) :=
  .bind (.declarations source header.name header.declarations) fun _ => .pure _

theorem files (source : Source) (headers : List FileRecord) :
    Adding environment source (Load.files source headers) := by
  induction headers with
  | nil => exact .pure []
  | cons header headers inductionHypothesis =>
      exact .bind (.file source header) fun _ => .bind inductionHypothesis fun _ => .pure _

theorem module (source : Source) (header : ModuleRecord) :
    Adding environment source (Load.module source header) := by
  refine .bind ?_ fun _ => .bind (.files source header.files) fun _ => .pure _
  exact .pure environment

theorem moduleOfBytes (source : Source) (bytes : List UInt8) :
    Adding environment source (Load.moduleOfBytes source bytes) := by
  refine .bind ?_ fun header => .module source header
  cases ModuleRecord.ofBytes bytes with
  | ok header => exact .pure header
  | error fault => exact .fail _

/-- What a loader adds to the session that it works for. -/
theorem inSession (adding : Adding environment source computation) (keyed : state.Keyed) :
    Adds environment
        (source.recordsUnder (finalState (computation environment { session := state })).asked)
        state (finalState (computation environment { session := state })).session ∧
      ∀ result after, computation.inSession environment state = .ok result after →
        AddsAll
          (source.recordsUnder (finalState (computation environment { session := state })).asked)
          state after := by
  rcases adding { session := state } keyed with ⟨asked, notes, adds, all⟩
  rw [List.nil_append] at notes
  rw [notes]
  refine ⟨adds, fun result after run => ?_⟩
  unfold Load.inSession at run
  cases ends : computation environment { session := state } with
  | ok found last =>
      rw [ends] at run
      cases run
      exact all _ _ ends
  | error error last =>
      rw [ends] at run
      cases run

end Adding

end Load

/-! ## Requests -/

/-- The keys of a state are those of what they are mapped to. -/
structure State.KeysAgree (state : State) : Prop where
  symbols : ∀ (id : UInt64) (symbol : Symbol), state.symbols[id]? = some symbol → symbol.id = id
  loops : ∀ id node, state.loops.lookup? id = some node →
    ∃ loop, state.loops.node? node = some loop ∧ loop.id = id
  declarations : ∀ id declaration, state.Registers id declaration →
    ∃ descriptor : Descriptor, declaration.backingDescriptor? = some descriptor ∧ descriptor.id = id

/-- The keys of a session agree with what they are mapped to. -/
theorem Reachable.keysAgree (reachable : Reachable environment state) : state.KeysAgree where
  symbols := fun id symbol => reachable.keyed id symbol
  loops := fun id node registered => by
    have begun := (reachable.ordered.lookup?_eq_some_iff.mp registered).1
    rw [LoopTable.getElem?_ids] at begun
    exact Option.map_eq_some_iff.mp begun
  declarations := reachable.settled.sound.described

namespace Request

/-- The records that a request decodes: the one that it is about, or those that its source has
under the identifiers that the loader asks for. -/
def decoded (environment : Environment) (state : State) : Request → List RecordNode
  | .symbol _ => []
  | .type record => [⟨record⟩]
  | .expression record => [⟨record⟩]
  | .statement record => [⟨record⟩]
  | .declaration record _ => [⟨record⟩]
  | .file source header =>
      source.recordsUnder
        (finalState (Load.file source header environment { session := state })).asked
  | .module source header =>
      source.recordsUnder
        (finalState (Load.module source header environment { session := state })).asked
  | .moduleBytes source bytes =>
      source.recordsUnder
        (finalState (Load.moduleOfBytes source bytes environment { session := state })).asked

/-- A request names the symbol that it asks for, or those in the records that it decodes. -/
def Names (environment : Environment) (state : State) (request : Request) (id : UInt64) : Prop :=
  (∃ record, request = .symbol record ∧ record.uniqueId.index = id) ∨
    NamedIn (request.decoded environment state) id

/-- Every key is mapped to the same instance after a request as before it, and new keys are
in the records that it decodes. -/
structure Inserts (environment : Environment) (state : State) (request : Request)
    (after : State) : Prop where
  symbols : ∀ (id : UInt64) (symbol : Symbol), state.symbols[id]? = some symbol →
    after.symbols[id]? = some symbol
  declarations : ∀ id declaration, state.Registers id declaration →
    after.Registers id declaration
  loops : ∀ id node, state.loops.lookup? id = some node →
    after.loops.lookup? id = some node ∧ after.loops.node? node = state.loops.node? node
  newSymbols : ∀ id, state.symbols[id]? = none → after.symbols[id]? ≠ none →
    request.Names environment state id
  newLoops : ∀ id, state.loops.lookup? id = none → after.loops.lookup? id ≠ none →
    BegunIn (request.decoded environment state) id
  /-- A declaration that becomes known was built completely. -/
  newDeclarations : ∀ id declaration, state.declarations[id]? = none →
    after.Registers id declaration → ∃ node ∈ request.decoded environment state,
      Decode.Completed environment node.record state after id declaration

/-- The new keys are exactly those in the records that a request decodes. -/
structure InsertsAll (environment : Environment) (state : State) (request : Request)
    (after : State) : Prop where
  symbols : ∀ id, (state.symbols[id]? = none ∧ after.symbols[id]? ≠ none) ↔
    request.Names environment state id ∧ state.symbols[id]? = none
  loops : ∀ id, (state.loops.lookup? id = none ∧ after.loops.lookup? id ≠ none) ↔
    BegunIn (request.decoded environment state) id ∧ state.loops.lookup? id = none
  declarations : ∀ id, (state.declarations[id]? = none ∧ after.declarations[id]? ≠ none) ↔
    DeclaredIn (request.decoded environment state) after id

variable {request : Request} {response : Response}

/-- A request for trees adds what is in the records that it decodes. -/
theorem adds (keyed : state.Keyed) (trees : ∀ record, request ≠ .symbol record) :
    Adds environment (request.decoded environment state) state (request.after environment state) ∧
      ∀ response after, request.answer environment state = .ok response after →
        AddsAll (request.decoded environment state) state after := by
  -- What is made of a result does not show.
  have mapped {α : Type} {computation : Decode α} {make : α → Response} {records : List RecordNode}
      (all : ∀ result after, computation environment state = .ok result after →
        AddsAll records state after) (response : Response) (after : State)
      (run : (computation >>= fun result => pure (make result)) environment state =
        .ok response after) : AddsAll records state after := by
    rcases Decode.bind_ok_iff.mp run with ⟨result, last, ends, ⟨⟩⟩
    exact all result _ ends
  have tree {c : Category} (record : Record c) (context : Context c) :
      Adds environment [⟨record⟩] state
          (finalState (Decode.build record context environment state)) ∧
        ∀ response after, (Decode.build record context >>= fun tree =>
            pure (Response.tree tree)) environment state = .ok response after →
          AddsAll [⟨record⟩] state after :=
    ⟨Decode.adds_of_build record context keyed,
      mapped fun _ _ run => Decode.addsAll_of_build keyed run⟩
  cases request with
  | symbol record => exact absurd rfl (trees record)
  | type record => exact tree record ()
  | expression record => exact tree record ()
  | statement record => exact tree record ()
  | declaration record parent => exact tree record parent
  | file source header => exact ((Load.Adding.file source header).inSession keyed).imp_right mapped
  | module source header =>
      exact ((Load.Adding.module source header).inSession keyed).imp_right mapped
  | moduleBytes source bytes =>
      exact ((Load.Adding.moduleOfBytes source bytes).inSession keyed).imp_right mapped

/-- Asking for a symbol adds that symbol only. -/
theorem after_symbol (record : SymbolRecord) :
    ∃ symbols, Request.after environment state (.symbol record) = state.withSymbols symbols ∧
      ∀ id, id ≠ record.uniqueId.index → symbols[id]? = state.symbols[id]? := by
  rcases Decode.resolveSymbol_links record environment state.symbols with
    ⟨outcome, symbols, links⟩
  refine ⟨symbols, ?_, fun id different => links.others different⟩
  rw [after, links.runs state rfl]
  cases outcome <;> rfl

/-- A request keeps every key with its instance, and adds no keys but those in the records that
it decodes. -/
theorem inserts_of_reachable (reachable : Reachable environment state) :
    request.Inserts environment state (request.after environment state) := by
  have footprint := request.footprint environment reachable.settled.sound
  have kept (id : Int32) (node : Nat) (registered : state.loops.lookup? id = some node) :
      (request.after environment state).loops.lookup? id = some node ∧
        (request.after environment state).loops.node? node = state.loops.node? node := by
    rcases reachable.keysAgree.loops id node registered with ⟨loop, found, -⟩
    exact ⟨footprint.grown.registered id node registered,
      footprint.loops node (LoopTable.node?_lt found)⟩
  by_cases trees : ∀ record, request ≠ .symbol record
  · have adds : Adds environment _ state _ := (adds reachable.keyed trees).1
    exact {
      symbols := footprint.grown.symbols
      declarations := footprint.grown.declarations
      loops := kept
      newSymbols := fun id unknown known => .inr (adds.symbols id unknown known)
      newLoops := adds.loops
      newDeclarations := fun id declaration unknown registered =>
        (adds.declarations id declaration registered).resolve_left fun old => by
          cases unknown.symm.trans old }
  · push Not at trees
    rcases trees with ⟨record, rfl⟩
    rcases after_symbol record with ⟨symbols, ends, others⟩
    exact {
      symbols := footprint.grown.symbols
      declarations := footprint.grown.declarations
      loops := kept
      newSymbols := fun id unknown known => by
        refine .inl ⟨record, rfl, ?_⟩
        by_contra different
        rw [ends] at known
        exact known ((others id (Ne.symm different)).trans unknown)
      newLoops := fun id free registered => by
        rw [ends] at registered
        exact absurd free registered
      newDeclarations := fun id declaration unknown registered => by
        rw [ends] at registered
        cases unknown.symm.trans registered }

/-- A request that succeeds adds all keys in the records that it decodes. -/
theorem insertsAll_of_reachable (reachable : Reachable environment state)
    (answers : request.answer environment state = .ok response after) :
    request.InsertsAll environment state after := by
  have inserts : request.Inserts environment state _ := inserts_of_reachable reachable
  rw [← finalState_answer, answers] at inserts
  by_cases trees : ∀ record, request ≠ .symbol record
  · have all := (adds reachable.keyed trees).2 response after answers
    exact {
      symbols := fun id => by
        constructor
        · rintro ⟨unknown, known⟩
          exact ⟨inserts.newSymbols id unknown known, unknown⟩
        · rintro ⟨⟨record, isSymbol, -⟩ | named, unknown⟩
          · exact absurd isSymbol (trees record)
          · exact ⟨unknown, all.symbols id named⟩
      loops := fun id => by
        constructor
        · rintro ⟨free, registered⟩
          exact ⟨inserts.newLoops id free registered, free⟩
        · rintro ⟨begun, free⟩
          exact ⟨free, all.loops id begun⟩
      declarations := fun id => (all.declarations id).symm }
  · push Not at trees
    rcases trees with ⟨record, rfl⟩
    rcases Decode.bind_ok_iff.mp answers with ⟨symbol, _, run, ⟨⟩⟩
    have found : after.symbols[record.uniqueId.index]? = some symbol := by
      rcases Decode.resolveSymbol_links record environment state.symbols with
        ⟨outcome, symbols, links⟩
      rw [links.runs state rfl] at run
      cases outcome with
      | error error => cases run
      | ok _ =>
          cases run
          exact links.known symbol rfl
    exact {
      symbols := fun id => by
        constructor
        · rintro ⟨unknown, known⟩
          exact ⟨inserts.newSymbols id unknown known, unknown⟩
        · rintro ⟨⟨_, ⟨⟩, rfl⟩ | ⟨_, ⟨⟩, _⟩, unknown⟩
          exact ⟨unknown, Option.ne_none_iff_exists'.mpr ⟨symbol, found⟩⟩
      loops := fun id => by
        constructor
        · rintro ⟨free, registered⟩
          exact ⟨inserts.newLoops id free registered, free⟩
        · rintro ⟨⟨_, ⟨⟩, _⟩, _⟩
      declarations := fun id => by
        constructor
        · rintro ⟨unknown, known⟩
          rcases Option.ne_none_iff_exists'.mp known with ⟨declaration, registered⟩
          rcases inserts.newDeclarations id declaration unknown registered with ⟨_, ⟨⟩, _⟩
        · rintro ⟨_, ⟨⟩, _⟩ }

/-- What is known in a session stays mapped to the same instance, whatever it is asked for.
A request adds no symbols, loops and declarations but those of the records that it decodes,
and all of them if it succeeds; a declaration that it adds was built completely.  Every key is
that of what it is mapped to. -/
theorem insertion (reachable : Reachable environment state) (request : Request) :
    state.KeysAgree ∧ (request.after environment state).KeysAgree ∧
      request.Inserts environment state (request.after environment state) ∧
      ∀ response after, request.answer environment state = .ok response after →
        request.InsertsAll environment state after :=
  ⟨reachable.keysAgree, (reachable.step request).keysAgree, inserts_of_reachable reachable,
    fun _ _ answers => insertsAll_of_reachable reachable answers⟩

/-- Linking a local variable makes its symbol and its declaration known. -/
theorem insertion_localVariable :
    ∃ response after,
      (Request.declaration .localVariable .none).answer ⟨.ofVariable, {}⟩ .initial =
          .ok response after ∧
        State.initial.symbols[(1000 : UInt64)]? = none ∧ after.symbols[(1000 : UInt64)]? ≠ none ∧
        State.initial.declarations[DescriptorId.declared 0]? = none ∧
        after.declarations[DescriptorId.declared 0]? ≠ none := by
  have answers : ∃ response after symbol,
      (Request.declaration .localVariable .none).answer ⟨.ofVariable, {}⟩ .initial =
          .ok response after ∧
        after.symbols[(1000 : UInt64)]? = some symbol ∧
        symbol.descriptor.isPlaceholder = false ∧ symbol.descriptor.id = .declared 0 :=
    ⟨_, _, _, rfl, rfl, rfl, rfl⟩
  rcases answers with ⟨response, after, symbol, answers, found, real, described⟩
  have all := (insertion .start (.declaration .localVariable .none)).2.2.2 response after answers
  refine ⟨response, after, answers, rfl, ((all.symbols 1000).mpr ⟨.inr ?_, rfl⟩).2,
    (all.declarations _).mpr ?_⟩
  · exact ⟨_, .head _, _, _, Record.inside_of_parts 1 rfl, _, .head _, rfl⟩
  · exact ⟨_, .head _, _, symbol, ⟨_, _, .self _, rfl⟩, found, real, described⟩

end Request

end IrLink

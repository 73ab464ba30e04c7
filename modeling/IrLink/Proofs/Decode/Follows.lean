import IrLink.Proofs.Decode.Effect
import IrLink.Proofs.Decode.Run
import IrLink.Proofs.Record.Shape

/-!
# Computations that follow a list of items

A computation follows a list of items from a state if it does to the session
exactly what the steps of the items do, fails where they fail and with the same
error, and leaves the nesting as it was.  Rules for sequences and for the small
computations of the decoder reduce the question for a record to that for its
parts.
-/

namespace IrLink

namespace Tree

variable {declaration : Tree .declaration}

/-- A declaration without a symbol is described by a placeholder. -/
theorem backingDescriptor?_of_none
    (noSymbol : declaration.declarator.declaredSymbol? = .none) :
    declaration.backingDescriptor? = .none := by
  unfold backingDescriptor? descriptor declaredDescriptor
  rw [noSymbol]
  cases declaration.declarator.form <;> rfl

/-- A declaration with a symbol is described as its symbol is. -/
theorem backingDescriptor?_of_some {symbol : Symbol}
    (declared : declaration.declarator.declaredSymbol? = .some symbol) :
    declaration.backingDescriptor? =
      if symbol.descriptor.isPlaceholder then .none else .some symbol.descriptor := by
  unfold backingDescriptor? descriptor declaredDescriptor
  rw [declared]

end Tree

namespace Decode

variable {α β : Type} {environment : Environment} {state : State}

/-- What every computation leaves as it was. -/
structure Kept (before after : State) : Prop where
  keyed : after.Keyed
  grown : after.Extends before
  depth : after.depth = before.depth

theorem Kept.refl (keyed : state.Keyed) : Kept state state :=
  ⟨keyed, .refl state, rfl⟩

theorem Kept.trans {before middle after : State} (first : Kept before middle)
    (second : Kept middle after) : Kept before after :=
  ⟨second.keyed, second.grown.trans first.grown, second.depth.trans first.depth⟩

/-- A computation that does what the steps of a list of items do, and gives a
result with a given property. -/
structure Follows (environment : Environment) (state : State) (computation : Decode α)
    (items : List Item) (post : α → State → Prop) : Prop where
  ok : state.Keyed → ∀ {result : α} {after : State},
    computation environment state = .ok result after →
      perform environment (items.flatMap (Item.trace state.depth)) state.view =
          .ok () after.view ∧
        Kept state after ∧ post result after
  error : state.Keyed → ∀ {error : DecodeError} {after : State},
    computation environment state = .error error after →
      perform environment (items.flatMap (Item.trace state.depth)) state.view =
          .error error after.view ∧
        Kept state after

namespace Follows

variable {computation : Decode α} {rest : α → Decode β} {items others : List Item}
  {post : α → State → Prop} {last : β → State → Prop}

/-! ## Sequences -/

theorem pure {result : α} (holds : post result state) :
    Follows environment state (pure result) [] post where
  ok := fun keyed => by
    rintro _ _ ⟨⟩
    exact ⟨rfl, .refl keyed, holds⟩
  error := fun _ => by
    rintro _ _ ⟨⟩

theorem fail (error : DecodeError) (items : List Item) :
    Follows environment state (throw error : Decode α) (.step (.fail error) :: items)
      post where
  ok := fun _ => by
    rintro _ _ ⟨⟩
  error := fun keyed => by
    rintro _ _ ⟨⟩
    exact ⟨rfl, .refl keyed⟩

/-- A computation that does what a single step does. -/
theorem single {step : LinkStep} (outcome : Except DecodeError α) (after : State)
    (runs : computation environment state = finish outcome after)
    (performs : step.perform environment state.view =
      finish (outcome.map fun _ => ()) after.view)
    (kept : state.Keyed → Kept state after)
    (holds : state.Keyed → ∀ result, outcome = .ok result → post result after) :
    Follows environment state computation [.step step] post := by
  have performed : perform environment ([Item.step step].flatMap (Item.trace state.depth))
      state.view = finish (outcome.map fun _ => ()) after.view :=
    (perform_singleton step).trans performs
  constructor
  · intro keyed result final ends
    rw [runs] at ends
    cases outcome with
    | error error => cases ends
    | ok found =>
        cases ends
        exact ⟨performed, kept keyed, holds keyed _ rfl⟩
  · intro keyed error final ends
    rw [runs] at ends
    cases outcome with
    | ok found => cases ends
    | error early =>
        cases ends
        exact ⟨performed, kept keyed⟩

/-- The steps of two computations that are carried out one after the other are
those of the first and then those of the second. -/
theorem append (first : Follows environment state computation items post)
    (second : ∀ result after, after.Extends state → post result after →
      Follows environment after (rest result) others last) :
    Follows environment state (computation >>= rest) (items ++ others) last where
  ok := fun keyed result after ends => by
    rw [List.flatMap_append]
    cases run : computation environment state with
    | error error middle =>
        rw [bind_of_error run] at ends
        cases ends
    | ok between middle =>
        rw [bind_of_ok run] at ends
        rcases first.ok keyed run with ⟨performed, kept, holds⟩
        rcases (second between middle kept.grown holds).ok kept.keyed ends with
          ⟨performedRest, keptRest, holdsRest⟩
        rw [perform_append_of_ok performed, ← kept.depth]
        exact ⟨performedRest, kept.trans keptRest, holdsRest⟩
  error := fun keyed error after ends => by
    rw [List.flatMap_append]
    cases run : computation environment state with
    | error early middle =>
        rw [bind_of_error run] at ends
        cases ends
        rcases first.error keyed run with ⟨performed, kept⟩
        exact ⟨perform_append_of_error performed, kept⟩
    | ok between middle =>
        rw [bind_of_ok run] at ends
        rcases first.ok keyed run with ⟨performed, kept, holds⟩
        rcases (second between middle kept.grown holds).error kept.keyed ends with
          ⟨performedRest, keptRest⟩
        rw [perform_append_of_ok performed, ← kept.depth]
        exact ⟨performedRest, kept.trans keptRest⟩

theorem bind {item : Item} (first : Follows environment state computation [item] post)
    (second : ∀ result after, after.Extends state → post result after →
      Follows environment after (rest result) others last) :
    Follows environment state (computation >>= rest) (item :: others) last :=
  first.append second

/-- A computation without steps does not show. -/
theorem silent (first : Follows environment state computation [] post)
    (second : ∀ result after, after.Extends state → post result after →
      Follows environment after (rest result) others last) :
    Follows environment state (computation >>= rest) others last :=
  first.append second

/-- What is made of the result does not show. -/
theorem map {make : α → β} (first : Follows environment state computation items post)
    (holds : ∀ result after, after.Extends state → post result after →
      last (make result) after) :
    Follows environment state (computation >>= fun result => Pure.pure (make result))
      items last := by
  rw [← List.append_nil items]
  exact first.append fun result after grown given => .pure (holds result after grown given)

/-- A property of the result may be weakened. -/
theorem weaken {weaker : α → State → Prop}
    (follows : Follows environment state computation items post)
    (implies : ∀ result after, post result after → weaker result after) :
    Follows environment state computation items weaker where
  ok := fun keyed _ _ ends =>
    let ⟨performed, kept, holds⟩ := follows.ok keyed ends
    ⟨performed, kept, implies _ _ holds⟩
  error := fun keyed _ _ ends => follows.error keyed ends

/-! ## Records -/

section Records

variable {c : Category}

/-- A record that takes no level is followed by what follows its layout. -/
theorem level {record : Record c} (takes : c.takesLevel = false)
    (follows : Follows environment state computation record.layout post) :
    Follows environment state computation [.part record] post where
  ok := fun keyed _ _ ends => by
    have performed := follows.ok keyed ends
    rw [← Record.trace_of_takesNoLevel takes] at performed
    simpa [Item.trace] using performed
  error := fun keyed _ _ ends => by
    have performed := follows.error keyed ends
    rw [← Record.trace_of_takesNoLevel takes] at performed
    simpa [Item.trace] using performed

/-- A record that takes a level is followed by a computation that goes one level
deeper, and there follows the layout of the record. -/
theorem deeper (record : Record c) (takes : c.takesLevel = true)
    (stable : ∀ result after depth, post result after →
      post result { after with depth })
    (follows : Follows environment { state with depth := state.depth + 1 } computation
      record.layout post) :
    Follows environment state (descend computation) [.part record] post where
  ok := fun keyed result after ends => by
    simp only [List.flatMap_cons, List.flatMap_nil, List.append_nil, Item.trace,
      Record.trace_of_takesLevel takes, perform, LinkStep.perform]
    unfold descend at ends
    split at ends
    · cases ends
    · rename_i shallow
      rw [if_neg shallow]
      split at ends
      · rename_i inner run
        cases ends
        rcases follows.ok keyed run with ⟨performed, kept, holds⟩
        refine ⟨performed, ⟨kept.keyed, kept.grown, ?_⟩, stable _ _ _ holds⟩
        simp [kept.depth]
      · cases ends
  error := fun keyed error after ends => by
    simp only [List.flatMap_cons, List.flatMap_nil, List.append_nil, Item.trace,
      Record.trace_of_takesLevel takes, perform, LinkStep.perform]
    unfold descend at ends
    split at ends
    · rename_i deep
      cases ends
      rw [if_pos deep]
      exact ⟨rfl, .refl keyed⟩
    · rename_i shallow
      rw [if_neg shallow]
      split at ends
      · cases ends
      · rename_i inner run
        cases ends
        rcases follows.error keyed run with ⟨performed, kept⟩
        refine ⟨performed, ⟨kept.keyed, kept.grown, ?_⟩⟩
        simp [kept.depth]

end Records

/-! ## Symbols -/

theorem kept_of_links {symbolComputation : Decode Symbol} {id : UInt64}
    {outcome : Except DecodeError Symbol} {after : Std.TreeMap UInt64 Symbol}
    (links : Links environment symbolComputation id state.symbols outcome after)
    (keyed : state.Keyed) : Kept state (state.withSymbols after) := by
  refine ⟨?_, links.extends, rfl⟩
  rcases links.adds with rfl | ⟨symbol, rfl, _, rfl⟩
  · exact keyed
  · intro id found known
    simp only [State.withSymbols, Std.TreeMap.getElem?_insert] at known
    split at known
    · rename_i same
      cases known
      exact Std.LawfulEqOrd.eq_of_compare same
    · exact keyed id found known

/-- The symbol of a record has the recorded identifier, and is known. -/
theorem use (requirement : Requirement) (record : SymbolRecord) :
    Follows environment state (Decode.symbolFor requirement record)
      [.use requirement record]
      (fun symbol after => symbol.shape = record.shape ∧ after.Knows symbol) := by
  rcases symbolFor_links requirement record environment state.symbols with
    ⟨outcome, after, links⟩
  refine .single outcome _ (links.runs state rfl) ?_ (kept_of_links links) ?_
  · simp only [LinkStep.perform, links.runs state.view.state rfl]
    cases outcome <;> rfl
  · rintro keyed symbol rfl
    have known := links.known symbol rfl
    have same : symbol.id = record.uniqueId.index :=
      (kept_of_links links keyed).keyed _ _ known
    rw [← same] at known
    exact ⟨congrArg Symbol.ofId same, known⟩

/-- The symbols of a list of records. -/
theorem uses (requirement : Requirement) (records : List SymbolRecord) :
    Follows environment state (symbolsFor requirement records)
      (Item.uses requirement records)
      (fun symbols _ => symbols.map Symbol.shape = records.map (·.shape)) := by
  induction records generalizing state with
  | nil => exact .pure rfl
  | cons record records inductionHypothesis =>
      refine .bind (.use requirement record) fun symbol middle _ head => ?_
      refine .map inductionHypothesis fun symbols after _ tail => ?_
      rw [List.map_cons, List.map_cons, head.1, tail]

/-- The symbol of a record that may be absent. -/
theorem use? (requirement : Requirement) (record : Option SymbolRecord) :
    Follows environment state (symbolFor? requirement record)
      (Item.uses requirement record.toList)
      (fun symbol _ => symbol.map Symbol.shape = record.map (·.shape)) := by
  cases record with
  | none => exact .pure rfl
  | some record =>
      refine .map (.use requirement record) fun symbol after _ known => ?_
      exact congrArg some known.1

/-! ## Checks -/

theorem originNamed (name : String) :
    Follows environment state (Decode.originNamed name)
      (Item.steps (Record.originCheck name))
      (fun origin _ => Origin.ofName? name = some origin) := by
  unfold Decode.originNamed Record.originCheck
  cases found : Origin.ofName? name with
  | none => exact .fail _ _
  | some origin => exact .pure rfl

theorem constantOf (recorded : RecordedConstant) :
    Follows environment state (Decode.constantOf recorded)
      (Item.steps (Record.constantCheck recorded))
      (fun value _ => recorded.value? = some value) := by
  unfold Decode.constantOf Record.constantCheck
  cases found : recorded.value? with
  | none => exact .fail _ _
  | some value => exact .pure rfl

/-- The operand of a type operation is refused where its record is. -/
theorem operandClassifier {record : Record .type} {operand : Tree .type}
    (built : record.shape? () = some operand.shape) :
    Follows environment state (Decode.operandClassifier operand)
      (Item.steps record.operandCheck)
      (fun classifier _ => operand.classifier? = some classifier) := by
  cases record with
  | unsetType => cases built
  | simpleType =>
      rcases Option.bind_eq_some_iff.mp built with ⟨_, _, rest⟩
      rcases Option.bind_eq_some_iff.mp rest with ⟨_, _, shaped⟩
      cases operand with
      | simpleType => exact .pure rfl
      | dynamicType => cases shaped
      | errorType => cases shaped
  | dynamicType =>
      rcases Option.bind_eq_some_iff.mp built with ⟨_, _, shaped⟩
      cases operand with
      | simpleType => cases shaped
      | dynamicType => exact .fail _ _
      | errorType => cases shaped
  | errorType =>
      rcases Option.bind_eq_some_iff.mp built with ⟨_, _, shaped⟩
      cases operand with
      | simpleType => cases shaped
      | dynamicType => cases shaped
      | errorType => exact .fail _ _

/-- What a clause catches is refused where its record is. -/
theorem requireVariable {record : Record .declaration} {parameter : Tree .declaration}
    (sameForm : parameter.declarator.form = record.form) :
    Follows environment state (Decode.requireVariable parameter)
      (Item.steps (Record.parameterCheck record)) (fun _ _ => True) := by
  unfold Decode.requireVariable Record.parameterCheck
  rw [← sameForm]
  cases parameter.declarator.form with
  | localVariable => exact .pure trivial
  | _ => exact .fail _ _

/-- The class of an enum entry is refused where its record is. -/
theorem requireClass {record : Record (.option .declaration)}
    {entryClass : Tree (.option .declaration)}
    (sameForm : entryClass.toOption.map (·.declarator.form) =
      record.toOption.map (·.form)) :
    Follows environment state (Decode.requireClass entryClass)
      (Item.steps (Record.entryClassCheck record)) (fun _ _ => True) := by
  cases record with
  | none =>
      cases entryClass with
      | none => exact .pure trivial
      | some declaration => cases sameForm
  | some record =>
      cases entryClass with
      | none => cases sameForm
      | some declaration =>
          have forms : declaration.declarator.form = record.form := Option.some.inj sameForm
          simp only [Decode.requireClass, Record.entryClassCheck, Tree.toOption, ← forms]
          cases declaration.declarator.form with
          | klass => exact .pure trivial
          | _ => exact .fail _ _

/-! ## Loops and declarations -/

theorem freshNode :
    Follows environment state Decode.freshNode [] (fun _ _ => True) where
  ok := fun keyed => by
    rintro _ _ ⟨⟩
    exact ⟨rfl, ⟨keyed, .refl state, rfl⟩, trivial⟩
  error := fun _ => by
    rintro _ _ ⟨⟩

/-- The loop is registered under its identifier. -/
theorem beginLoop (loop : LoopNode) :
    Follows environment state (Decode.beginLoop loop) [.step (.beginLoop loop.id)]
      (fun _ _ => True) := by
  refine .single (.ok state.loops.nextNode) _ rfl ?_
    (fun keyed => ⟨keyed, .refl state, rfl⟩) (fun _ _ _ => trivial)
  refine congrArg (EStateM.Result.ok ()) ?_
  simp only [State.view, View.mk.injEq, true_and]
  funext other
  simp [LoopTable.register, LoopTable.allocate, compare_beq_eq]

/-- The contents of a loop do not show. -/
theorem fillLoop (node : Nat) (contents : LoopContents) :
    Follows environment state (Decode.fillLoop node contents) [] (fun _ _ => True) where
  ok := fun keyed => by
    rintro _ _ ⟨⟩
    refine ⟨?_, ⟨keyed, .refl state, rfl⟩, trivial⟩
    refine congrArg (EStateM.Result.ok ()) ?_
    simp only [State.view, View.mk.injEq, true_and, LoopTable.populate]
    split
    · split <;> rfl
    · rfl
  error := fun _ => by
    rintro _ _ ⟨⟩

/-- A jump has the recorded identifier and label. -/
theorem jumpTo (id : Int32) (label : Option String) :
    Follows environment state (Decode.jumpTo id label) [.step (.jump id)]
      (fun jump _ => jump.loopId = id ∧ jump.label = label) := by
  have registered : state.view.loops id = (state.loops.lookup? id).isSome :=
    Std.TreeMap.contains_eq_isSome_getElem?
  cases found : state.loops.lookup? id with
  | none =>
      refine .single (.error (.danglingLoopReference id)) state ?_ ?_
        .refl (fun _ _ impossible => nomatch impossible)
      · refine get_bind.trans ?_
        simp only [State.lookupLoop, found]
        rfl
      · simp [LinkStep.perform, registered, found, finish, Except.map]
  | some node =>
      refine .single (.ok ⟨id, label, node⟩) state ?_ ?_ .refl ?_
      · refine get_bind.trans ?_
        simp only [State.lookupLoop, found]
        rfl
      · simp [LinkStep.perform, registered, found, finish, Except.map]
      · rintro _ _ ⟨⟩
        exact ⟨rfl, rfl⟩

/-- A declaration with a symbol is made known under the descriptor of the symbol, if
that is no placeholder and has no declaration yet. -/
theorem declareSymbol {declaration : Tree .declaration} {symbol : Symbol} {id : UInt64}
    (declared : declaration.declarator.declaredSymbol? = some symbol)
    (found : state.view.symbols[id]? = some symbol) :
    Follows environment state (Decode.registerDeclaration declaration)
      [.step (.declare id)] (fun _ _ => True) := by
  have declaredView : state.view.declared symbol.descriptor.id =
      state.declarations.contains symbol.descriptor.id := rfl
  unfold Decode.registerDeclaration
  rw [Tree.backingDescriptor?_of_some declared]
  cases placeholder : symbol.descriptor.isPlaceholder with
  | true =>
      refine .single (.ok ()) state rfl ?_ .refl (fun _ _ _ => trivial)
      simp only [LinkStep.perform, found, placeholder]
      rfl
  | false =>
      cases known : state.declarations.contains symbol.descriptor.id with
      | true =>
          refine .single (.error (.duplicateDeclaration symbol.descriptor)) state
            ?_ ?_ .refl (fun _ _ _ => trivial)
          · refine get_bind.trans ?_
            simp only [known]
            rfl
          · simp only [LinkStep.perform, found, placeholder, declaredView, known]
            rfl
      | false =>
          refine .single (.ok ()) { state with
              declarations := state.declarations.insert symbol.descriptor.id declaration }
            ?_ ?_ (fun keyed => ⟨keyed, .refl state, rfl⟩) (fun _ _ _ => trivial)
          · refine get_bind.trans ?_
            simp only [known]
            rfl
          · simp only [LinkStep.perform, found, placeholder, declaredView, known]
            refine congrArg (EStateM.Result.ok ()) ?_
            simp only [State.view, View.mk.injEq, true_and, and_true]
            funext other
            simp [compare_beq_eq]

/-- A declaration is made known as its record says, whose symbol is the known one. -/
theorem registerDeclaration {declaration : Tree .declaration} {record : Option SymbolRecord}
    (sameId : declaration.declarator.declaredSymbol?.map Symbol.shape =
      record.map (·.shape))
    (known : ∀ symbol, declaration.declarator.declaredSymbol? = some symbol →
      state.Knows symbol) :
    Follows environment state (Decode.registerDeclaration declaration)
      (Item.steps (Record.declareStep record)) (fun _ _ => True) := by
  cases declared : declaration.declarator.declaredSymbol? with
  | none =>
      rw [declared] at sameId
      unfold Decode.registerDeclaration
      rw [Tree.backingDescriptor?_of_none declared]
      cases record with
      | none => exact .pure trivial
      | some record => cases sameId
  | some symbol =>
      rw [declared] at sameId
      cases record with
      | none => cases sameId
      | some record =>
          have same : symbol.id = record.uniqueId.index :=
            congrArg Symbol.id (Option.some.inj sameId)
          exact declareSymbol declared (same ▸ known symbol declared)

end Follows

end Decode

end IrLink

import IrLink.Proofs.Decode.Growth
import IrLink.Proofs.Decode.Tallied

/-!
# What computations leave of a session

However a computation ends, it leaves a footprint, and the declarations that it
makes known are known with everything inside them (`State.News`).  If it ends
well, its result is linked in the session, and as many declarations become known
as its steps make known with a real descriptor (`Decode.Settles`).

Marks are judged by a state `final` that lies behind the computation, so that
nothing has to be carried over when more is linked.  That the computations of the
decoder leave footprints does not depend on it; all else is said of sessions that
go on to `final`.
-/

namespace IrLink

variable {environment : Environment} {final : State}

/-! ## News -/

/-- What became known between two states is known with everything inside it. -/
def State.News (environment : Environment) (final before after : State) : Prop :=
  ∀ id declaration, after.Registers id declaration →
    before.Registers id declaration ∨
      ∀ mark ∈ declaration.ownedMarks, mark.Holds environment final

namespace State.News

theorem refl (state : State) : News environment final state state :=
  fun _ _ known => .inl known

theorem trans {first second third : State} (early : News environment final first second)
    (late : News environment final second third) : News environment final first third := by
  intro id declaration known
  rcases late id declaration known with known | marked
  · exact early id declaration known
  · exact .inr marked

/-- A declaration is made known after everything inside it. -/
theorem declaring {before state : State} {id : DescriptorId} {declaration : Tree .declaration}
    (news : News environment final before state)
    (marked : ∀ mark ∈ declaration.ownedMarks, mark.Holds environment final) :
    News environment final before (state.declaring id declaration) := by
  intro other known registered
  rw [registers_declaring] at registered
  split at registered
  · subst registered
    exact .inr marked
  · exact news other known registered

end State.News

namespace Decode

variable {α β : Type}

/-! ## Computations -/

/-- A computation one level deeper ends where it ends, apart from the nesting. -/
theorem finalState_descend (environment : Environment) (state : State)
    (computation : Decode α) :
    finalState (descend computation environment state) = state ∨
      ∃ depth, finalState (descend computation environment state) =
        { finalState (computation environment { state with depth := state.depth + 1 }) with
          depth } := by
  unfold descend
  split
  · exact .inl rfl
  · cases run : computation environment { state with depth := state.depth + 1 } with
    | ok result after => exact .inr ⟨_, rfl⟩
    | error error after => exact .inr ⟨_, rfl⟩

theorem descend_ok {computation : Decode α} {state after : State} {result : α}
    (ends : descend computation environment state = .ok result after) :
    ∃ middle, computation environment { state with depth := state.depth + 1 } =
        .ok result middle ∧
      after = { middle with depth := middle.depth - 1 } := by
  unfold descend at ends
  split at ends
  · cases ends
  · cases run : computation environment { state with depth := state.depth + 1 } with
    | ok result middle =>
        rw [run] at ends
        cases ends
        exact ⟨middle, rfl, rfl⟩
    | error error middle =>
        rw [run] at ends
        cases ends

theorem descend_error {computation : Decode α} {state after : State} {error : DecodeError}
    (ends : descend computation environment state = .error error after) :
    after = state ∨
      ∃ middle, computation environment { state with depth := state.depth + 1 } =
          .error error middle ∧
        after = { middle with depth := middle.depth - 1 } := by
  unfold descend at ends
  split at ends
  · cases ends
    exact .inl rfl
  · right
    cases run : computation environment { state with depth := state.depth + 1 } with
    | ok result middle =>
        rw [run] at ends
        cases ends
    | error error middle =>
        rw [run] at ends
        cases ends
        exact ⟨middle, rfl, rfl⟩

/-! ### Jumps -/

section Jumps

variable {environment : Environment} {state : State} {id : Int32} {label : Option String}

theorem jumpTo_ok {after : State} {jump : Jump}
    (ends : jumpTo id label environment state = .ok jump after) :
    after = state ∧ jump.loopId = id ∧ jump.label = label ∧
      state.loops.lookup? id = some jump.target := by
  unfold jumpTo State.lookupLoop at ends
  rw [get_bind] at ends
  cases found : state.loops.lookup? id with
  | none =>
      simp only [found] at ends
      cases ends
  | some node =>
      simp only [found] at ends
      cases ends
      exact ⟨rfl, rfl, rfl, rfl⟩

theorem finalState_jumpTo : finalState (jumpTo id label environment state) = state := by
  unfold jumpTo
  rw [get_bind]
  cases state.lookupLoop id <;> rfl

end Jumps

/-! ### Loops -/

section Loops

variable {environment : Environment} {state middle : State} {shell : LoopNode}
  {inside : Decode LoopContents}

theorem looping_of_ok {contents : LoopContents}
    (run : inside environment (state.begun shell) = .ok contents middle) :
    looping shell inside environment state =
      .ok (state.loops.nextNode, contents) (middle.filled state.loops.nextNode contents) := by
  have begun : beginLoop shell environment state =
      .ok state.loops.nextNode (state.begun shell) := rfl
  exact (bind_of_ok begun).trans (bind_of_ok run)

theorem looping_of_error {error : DecodeError}
    (run : inside environment (state.begun shell) = .error error middle) :
    looping shell inside environment state = .error error middle := by
  have begun : beginLoop shell environment state =
      .ok state.loops.nextNode (state.begun shell) := rfl
  exact (bind_of_ok begun).trans (bind_of_error run)

end Loops

/-! ### Declarations -/

section Declarations

variable {environment : Environment} {state middle : State} {range : Range} {origin : Origin}
  {parent : Parent} {make : Nat → Decode (Tree .declarator × Tree (.list .call))}

/-- A declaration becomes known under the descriptor behind it, if there is one
that has no declaration. -/
theorem registerDeclaration_cases (environment : Environment) (state : State)
    (declaration : Tree .declaration) :
    (declaration.backingDescriptor? = none ∧
        registerDeclaration declaration environment state = .ok () state) ∨
      (∃ descriptor, registerDeclaration declaration environment state =
        .error (.duplicateDeclaration descriptor) state) ∨
      ∃ descriptor, declaration.backingDescriptor? = some descriptor ∧
        state.declarations[descriptor.id]? = none ∧
        registerDeclaration declaration environment state =
          .ok () (state.declaring descriptor.id declaration) := by
  unfold registerDeclaration
  cases described : declaration.backingDescriptor? with
  | none => exact .inl ⟨rfl, rfl⟩
  | some descriptor =>
      right
      simp only [get_bind]
      cases known : state.declarations.contains descriptor.id with
      | true => exact .inl ⟨descriptor, rfl⟩
      | false =>
          rw [Std.TreeMap.contains_eq_isSome_getElem?, Option.isSome_eq_false_iff,
            Option.isNone_iff_eq_none] at known
          exact .inr ⟨descriptor, rfl, known, rfl⟩

theorem declaring_of_error {error : DecodeError}
    (run : make state.nextNode environment state.numbered = .error error middle) :
    declaring range origin parent make environment state = .error error middle := by
  have numbered : freshNode environment state = .ok state.nextNode state.numbered := rfl
  exact (bind_of_ok numbered).trans (bind_of_error run)

/-- What happens after the parts of a declaration were made. -/
theorem declaring_of_ok {made : Tree .declarator × Tree (.list .call)}
    (run : make state.nextNode environment state.numbered = .ok made middle)
    {declaration : Tree .declaration}
    (same : declaration =
      .declarationNode state.nextNode range origin parent made.1 made.2) :
    (declaration.backingDescriptor? = none ∧
        declaring range origin parent make environment state = .ok declaration middle) ∨
      (∃ descriptor, declaring range origin parent make environment state =
        .error (.duplicateDeclaration descriptor) middle) ∨
      ∃ descriptor, declaration.backingDescriptor? = some descriptor ∧
        middle.declarations[descriptor.id]? = none ∧
        declaring range origin parent make environment state =
          .ok declaration (middle.declaring descriptor.id declaration) := by
  subst same
  have numbered : freshNode environment state = .ok state.nextNode state.numbered := rfl
  have begins {outcome} (rest : (do
        let declaration : Tree .declaration :=
          .declarationNode state.nextNode range origin parent made.1 made.2
        registerDeclaration declaration
        return declaration) environment middle = outcome) :
      declaring range origin parent make environment state = outcome :=
    (bind_of_ok numbered).trans ((bind_of_ok run).trans rest)
  rcases registerDeclaration_cases environment middle
      (.declarationNode state.nextNode range origin parent made.1 made.2) with
    ⟨none, registered⟩ | ⟨descriptor, taken⟩ | ⟨descriptor, described, free, registered⟩
  · exact .inl ⟨none, begins (bind_of_ok registered)⟩
  · exact .inr (.inl ⟨descriptor, begins (bind_of_error taken)⟩)
  · exact .inr (.inr ⟨descriptor, described, free, begins (bind_of_ok registered)⟩)

/-- The symbol that a declarator declares is marked. -/
theorem declaredSymbol_marked {declarator : Tree .declarator} {symbol : Symbol}
    (declared : declarator.declaredSymbol? = some symbol) :
    ∃ requirement, .symbol requirement symbol ∈ declarator.allMarks := by
  cases declarator with
  | property => cases declared
  | errorDeclarator => cases declared
  | _ =>
      cases declared
      exact ⟨_, .head _⟩

end Declarations

/-- A computation that leaves a session sound, and whose result is linked in a
session that goes on to `final`. -/
structure Settles (environment : Environment) (final : State) (given : Prop)
    (computation : Decode α) (effects : List LinkStep) (post : α → Prop) : Prop where
  footprint {state : State} (sound : state.Sound) :
    state.Footprint (finalState (computation environment state))
  news (known : given) {state : State} (sound : state.Sound) {pending : List Nat}
    (older : ∀ node ∈ pending, node < state.nextNode)
    (grown : (finalState (computation environment state)).Grown pending final) :
    State.News environment final state (finalState (computation environment state))
  ok (known : given) {state : State} (sound : state.Sound) {pending : List Nat}
    (older : ∀ node ∈ pending, node < state.nextNode) {result : α} {after : State}
    (ends : computation environment state = .ok result after)
    (grown : after.Grown pending final) :
    post result ∧ after.declarationCount =
      state.declarationCount + effects.countP (·.declares final.describes)

namespace Settles

variable {given : Prop} {computation : Decode α} {rest : α → Decode β}
  {effects others : List LinkStep} {post : α → Prop} {last : β → Prop}

theorem footprint_of_ok (settles : Settles environment final given computation effects post)
    {state after : State} (sound : state.Sound) {result : α}
    (ends : computation environment state = .ok result after) : state.Footprint after := by
  have footprint := settles.footprint sound
  rw [ends] at footprint
  exact footprint

theorem pure {result : α} (holds : given → post result) :
    Settles environment final given (Pure.pure result) [] post where
  footprint := .refl
  news := fun _ state _ _ _ _ => .refl state
  ok := by
    rintro known state _ _ _ _ _ ⟨⟩ _
    exact ⟨holds known, rfl⟩

theorem fail (error : DecodeError) (effects : List LinkStep) (post : α → Prop) :
    Settles environment final given (throw error) effects post where
  footprint := .refl
  news := fun _ state _ _ _ _ => .refl state
  ok := by
    rintro _ _ _ _ _ _ _ ⟨⟩

theorem bind (first : Settles environment final given computation effects post)
    (second : ∀ result,
      Settles environment final (given ∧ post result) (rest result) others last) :
    Settles environment final given (computation >>= rest) (effects ++ others) last where
  footprint := fun {state} sound => by
    have head := first.footprint sound
    cases run : computation environment state with
    | error error middle =>
        rw [run] at head
        rw [bind_of_error run]
        exact head
    | ok result middle =>
        rw [run] at head
        rw [bind_of_ok run]
        exact head.trans ((second result).footprint head.sound)
  news := fun known state sound pending older grown => by
    have news := first.news known sound older
    cases run : computation environment state with
    | error error middle =>
        rw [run] at news
        rw [bind_of_error run] at grown ⊢
        exact news grown
    | ok result middle =>
        have head := first.footprint_of_ok sound run
        rw [run] at news
        rw [bind_of_ok run] at grown ⊢
        -- The session goes on from where the first computation ends.
        have goesOn := ((second result).footprint head.sound).grown.trans grown
        have holds := (first.ok known sound older run goesOn).1
        have newsRest := (second result).news ⟨known, holds⟩ head.sound (head.older older) grown
        exact (news goesOn).trans newsRest
  ok := fun known state sound pending older result after ends grown => by
    rcases bind_ok_iff.mp ends with ⟨between, middle, run, runRest⟩
    have head := first.footprint_of_ok sound run
    have tail := (second between).footprint_of_ok head.sound runRest
    rcases first.ok known sound older run (tail.grown.trans grown) with ⟨holds, count⟩
    rcases (second between).ok ⟨known, holds⟩ head.sound (head.older older) runRest grown with
      ⟨holdsRest, countRest⟩
    refine ⟨holdsRest, ?_⟩
    rw [countRest, count, List.countP_append, Nat.add_assoc]

theorem descend (inside : Settles environment final given computation effects post) :
    Settles environment final given (descend computation) effects post where
  footprint := fun {state} sound => by
    rcases finalState_descend environment state computation with same | ⟨depth, same⟩
    · rw [same]
      exact .refl sound
    · rw [same]
      exact (inside.footprint (sound.atDepth (state.depth + 1))).ofDepth depth
  news := fun known state sound pending older grown => by
    rcases finalState_descend environment state computation with same | ⟨depth, same⟩
    · rw [same]
      exact .refl state
    · rw [same] at grown ⊢
      exact inside.news known (sound.atDepth (state.depth + 1)) older { grown with }
  ok := fun known state sound pending older result after ends grown => by
    rcases descend_ok ends with ⟨middle, run, rfl⟩
    have deeper : middle.Grown pending final := { grown with }
    have settled := inside.ok known (sound.atDepth (state.depth + 1)) older run deeper
    exact settled

/-! ## Symbols and jumps -/

/-- A computation that finds or makes a symbol. -/
theorem ofLinks {computation : Decode Symbol} {id : UInt64} {post : Symbol → Prop}
    (links : ∀ symbols, ∃ outcome after,
      Links environment computation id symbols outcome after)
    (holds : ∀ {state symbol after}, computation environment state = .ok symbol after →
      symbol.id = id → final.Knows symbol → post symbol) :
    Settles environment final given computation [] post where
  footprint := fun {state} sound => by
    rcases links state.symbols with ⟨outcome, after, links⟩
    have kept := Follows.kept_of_links links sound.keyed
    rw [links.runs state rfl]
    cases outcome <;> exact .ofSymbols sound kept
  news := fun _ state _ _ _ _ => by
    rcases links state.symbols with ⟨outcome, after, links⟩
    rw [links.runs state rfl]
    cases outcome <;> exact .refl state
  ok := fun _ state sound _ _ symbol after ends grown => by
    rcases links state.symbols with ⟨outcome, symbols, links⟩
    have kept := Follows.kept_of_links links sound.keyed
    have run := links.runs state rfl
    rw [ends] at run
    cases outcome with
    | error error => cases run
    | ok found =>
        cases run
        have known := links.known symbol rfl
        have same := kept.keyed id symbol known
        rw [← same] at known
        exact ⟨holds ends same (grown.symbols.knows known), rfl⟩

theorem symbol (requirement : Requirement) (record : SymbolRecord) :
    Settles environment final given (symbolFor requirement record) [] fun symbol =>
      final.describes symbol.id = final.describes record.uniqueId.index ∧
        (Mark.symbol requirement symbol).Holds environment final := by
  refine .ofLinks (symbolFor_links requirement record environment) ?_
  intro state symbol after ends same known
  exact ⟨congrArg final.describes same, known, (symbolFor_ok_iff.mp ends).2⟩

theorem resolveSymbol (record : SymbolRecord) :
    Settles environment final given (resolveSymbol record) [] final.Knows :=
  .ofLinks (resolveSymbol_links record environment) fun _ _ known => known

theorem jump (id : Int32) (label : Option String) :
    Settles environment final given (jumpTo id label) [] fun jump =>
      (Mark.jump jump).Holds environment final where
  footprint := fun {state} sound => by
    rw [finalState_jumpTo]
    exact .refl sound
  news := fun _ state _ _ _ _ => by
    rw [finalState_jumpTo]
    exact .refl state
  ok := fun _ state _ _ _ jump after ends grown => by
    rcases jumpTo_ok ends with ⟨rfl, rfl, _, found⟩
    exact ⟨grown.registered _ _ found, rfl⟩

/-! ## Loops -/

theorem loop (shell : LoopNode) {inside : Decode LoopContents}
    {post : LoopContents → Prop} (empty : shell.isPopulated = false)
    (contents : Settles environment final given inside effects post) :
    Settles environment final given (looping shell inside) (.beginLoop shell.id :: effects)
      fun filled => post filled.2 ∧
        (Mark.loop filled.1 { shell with contents := some filled.2 }).Holds environment
          final where
  footprint := fun {state} sound => by
    have begun := State.Footprint.begun sound shell
    have within := contents.footprint begun.sound
    cases run : inside environment (state.begun shell) with
    | error error middle =>
        rw [looping_of_error run]
        rw [run] at within
        exact begun.trans within
    | ok result middle =>
        rw [looping_of_ok run]
        rw [run] at within
        exact .filled sound within
  news := fun known state sound pending older grown => by
    have begun := State.Footprint.begun sound shell
    have news := contents.news known begun.sound older
    cases run : inside environment (state.begun shell) with
    | error error middle =>
        rw [looping_of_error run] at grown ⊢
        rw [run] at news
        exact news grown
    | ok result middle =>
        rw [looping_of_ok run] at grown ⊢
        rw [run] at news
        exact news ((State.Grown.filled middle _ result).trans grown)
  ok := fun known state sound pending older filled after ends grown => by
    have begun := State.Footprint.begun sound shell
    cases run : inside environment (state.begun shell) with
    | error error middle =>
        rw [looping_of_error run] at ends
        cases ends
    | ok result middle =>
        rw [looping_of_ok run] at ends
        cases ends
        have within := contents.footprint_of_ok begun.sound run
        have goesOn := (State.Grown.filled middle _ result).trans grown
        rcases contents.ok known begun.sound older run goesOn with ⟨holds, count⟩
        have shellFound : middle.loops.node? state.loops.nextNode = some shell := by
          rw [within.loops, State.node?_begun, if_pos rfl]
          rw [State.nextLoop_begun]
          exact Nat.lt_succ_self _
        have filledFound : (middle.filled state.loops.nextNode result).loops.node?
            state.loops.nextNode = _ := LoopTable.node?_populate_self shellFound empty
        exact ⟨⟨holds, grown.loops _ _ filledFound rfl, rfl⟩, count⟩

/-! ## Declarations -/

section Declarations

variable {range : Range} {origin : Origin} {parent : Parent}
  {make : Nat → Decode (Tree .declarator × Tree (.list .call))}
  {made : Tree .declarator × Tree (.list .call)} {symbol : Option SymbolRecord}

/-- Everything that is marked in a declaration is linked once the declaration is
known. -/
theorem ownedMarks_hold {node : Nat}
    (declares : Declares (·.Holds environment final) final.describes symbol made)
    (known : (Mark.declaration
      (.declarationNode node range origin parent made.1 made.2)).Holds environment final) :
    ∀ mark ∈ (Tree.declarationNode node range origin parent made.1 made.2).ownedMarks,
      mark.Holds environment final := by
  intro mark among
  rcases List.mem_cons.mp among with rfl | inside
  · exact known
  · rcases Tree.mem_allMarks_iff.mp inside with ⟨⟨⟩⟩ | ⟨part, isPart, marked⟩
    rcases isPart with _ | ⟨_, _ | ⟨_, ⟨⟩⟩⟩
    · exact declares.declarator mark marked
    · exact declares.annotations mark marked

/-- A declaration counts if its symbol does. -/
theorem count_declareStep {node : Nat}
    (declares : Declares (·.Holds environment final) final.describes symbol made) :
    (Record.declareStep symbol).countP (·.declares final.describes) =
      (Tree.declarationNode node range origin parent made.1
        made.2).backingDescriptor?.isSome.toNat := by
  have counts : (Record.declareStep symbol).countP (·.declares final.describes) =
      (symbol.any fun record => final.describes record.uniqueId.index).toNat := by
    cases symbol with
    | none => rfl
    | some record =>
        have own : (Record.declareStep (some record)).countP (·.declares final.describes) =
            if final.describes record.uniqueId.index then 1 else 0 := List.countP_singleton
        rw [own, Option.any_some]
        cases final.describes record.uniqueId.index <;> rfl
  rw [counts, ← declares.counts, ← State.describes_declared]
  · rfl
  · intro found declared
    rcases declaredSymbol_marked declared with ⟨requirement, marked⟩
    exact (declares.declarator _ marked).1

theorem declaration {effects : List LinkStep}
    {post : Tree .declarator × Tree (.list .call) → Prop}
    (declares : ∀ made, post made →
      Declares (·.Holds environment final) final.describes symbol made)
    (made : ∀ node, Settles environment final given (make node) effects post) :
    Settles environment final given (declaring range origin parent make)
      (effects ++ Record.declareStep symbol) fun declaration =>
        ∃ node made, declaration = .declarationNode node range origin parent made.1 made.2 ∧
          post made ∧ (Mark.declaration declaration).Holds environment final where
  footprint := fun {state} sound => by
    have numbered := State.Footprint.numbered sound
    have within := (made state.nextNode).footprint numbered.sound
    cases run : make state.nextNode environment state.numbered with
    | error error middle =>
        rw [declaring_of_error run]
        rw [run] at within
        exact numbered.trans within
    | ok parts middle =>
        rw [run] at within
        have before := numbered.trans within
        rcases declaring_of_ok run rfl with
          ⟨_, ends⟩ | ⟨descriptor, ends⟩ | ⟨descriptor, described, free, ends⟩
        · rw [ends]
          exact before
        · rw [ends]
          exact before
        · rw [ends]
          exact before.declaring described free (Nat.le_refl _) within.grown.nextNode
  news := fun known state sound pending older grown => by
    have numbered := State.Footprint.numbered sound
    have underway := State.older_numbered older
    have news := (made state.nextNode).news known numbered.sound underway
    cases run : make state.nextNode environment state.numbered with
    | error error middle =>
        rw [declaring_of_error run] at grown ⊢
        rw [run] at news
        exact news (grown.underway fun _ => .tail _)
    | ok parts middle =>
        rw [run] at news
        rcases declaring_of_ok run rfl with
          ⟨_, ends⟩ | ⟨descriptor, ends⟩ | ⟨descriptor, described, free, ends⟩
        · rw [ends] at grown ⊢
          exact news (grown.underway fun _ => .tail _)
        · rw [ends] at grown ⊢
          exact news (grown.underway fun _ => .tail _)
        · rw [ends] at grown ⊢
          have goesOn := State.Grown.ofDeclaring free grown
          have holds := ((made state.nextNode).ok known numbered.sound underway run goesOn).1
          refine (news goesOn).declaring (ownedMarks_hold (declares parts holds) ?_)
          intro own ownDescribed
          cases described.symm.trans ownDescribed
          exact grown.declarations _ _ (State.registers_declaring.mpr (if_pos rfl ▸ rfl))
  ok := fun known state sound pending older declaration after ends grown => by
    have numbered := State.Footprint.numbered sound
    have underway := State.older_numbered older
    cases run : make state.nextNode environment state.numbered with
    | error error middle =>
        rw [declaring_of_error run] at ends
        cases ends
    | ok parts middle =>
        rcases declaring_of_ok run rfl with
          ⟨none, same⟩ | ⟨descriptor, same⟩ | ⟨descriptor, described, free, same⟩
        · cases same.symm.trans ends
          rcases (made state.nextNode).ok known numbered.sound underway run
            (grown.underway fun _ => .tail _) with ⟨holds, count⟩
          refine ⟨⟨_, parts, rfl, holds, fun own described => ?_⟩, ?_⟩
          · cases none.symm.trans described
          · rw [count, List.countP_append, count_declareStep (declares parts holds), none]
            rfl
        · cases same.symm.trans ends
        · cases same.symm.trans ends
          have goesOn := State.Grown.ofDeclaring free grown
          rcases (made state.nextNode).ok known numbered.sound underway run goesOn with
            ⟨holds, count⟩
          refine ⟨⟨_, parts, rfl, holds, fun own ownDescribed => ?_⟩, ?_⟩
          · cases described.symm.trans ownDescribed
            exact grown.declarations _ _ (State.registers_declaring.mpr (if_pos rfl ▸ rfl))
          · rw [State.declarationCount_declaring free, count, List.countP_append,
              count_declareStep (declares parts holds), described]
            rfl

end Declarations

/-- A declaration that belongs to another stays unknown. -/
theorem child (site : Site) (declarator : Tree .declarator) :
    Settles environment final given (child site declarator) [] fun declaration =>
      (∃ node, declaration = .declarationNode node site.range site.origin
        (.declaration site.node) declarator .nil) ∧
      (Mark.backingField declaration).Holds environment final where
  footprint := State.Footprint.numbered
  news := fun _ state _ _ _ _ => .refl state
  ok := by
    rintro _ state sound pending older _ _ ⟨⟩ grown
    refine ⟨⟨⟨_, rfl⟩, grown.nextNode, fun id known registered => ?_⟩, rfl⟩
    rcases grown.newer id known registered with registered | newer | underway
    · exact Nat.ne_of_lt (sound.older id known registered)
    · exact Nat.ne_of_gt newer
    · exact Nat.ne_of_lt (older _ underway)

/-- Linking goes by these rules in every session that is sound in the end. -/
theorem rules (sound : final.Sound) :
    Rules (·.Holds environment final) final.describes
      (fun given computation => Settles environment final given computation) where
  pure := .pure
  fail := fun effects post _ => .fail _ effects post
  bind := .bind
  descend := .descend
  symbol := .symbol
  builtin := fun builtin among accepted => ⟨sound.builtins builtin among, fun _ => accepted⟩
  jump := .jump
  loop := fun shell _ _ _ => .loop shell
  declaration := fun _ _ _ _ _ _ _ => .declaration
  child := .child

end Settles

end Decode

end IrLink

import IrLink.Proofs.Decode.Answer
import IrLink.Proofs.Decode.Settles
import IrLink.Proofs.Record.Inside

/-!
# Properties of everything that the decoder does

Some properties of computations speak neither of results nor of steps: what a computation
leaves of a session, or how far it counts.  `Closed` says what makes such a property hold of
everything that does without loops and known declarations, and `Linking` what makes it hold
of linking records (`Linking.build`) and of requests (`Linking.request`).  Loops and
declarations may use that they are linked for one of the records in question.
-/

namespace IrLink.Decode

variable {α β : Type}

/-! ## Checks -/

theorem stateless_originNamed (name : String) : Stateless (originNamed name) := by
  unfold originNamed
  cases Origin.ofName? name with
  | none => exact .throw _
  | some origin => exact .pure origin

theorem stateless_constantOf (recorded : RecordedConstant) : Stateless (constantOf recorded) := by
  unfold constantOf
  cases recorded.value? with
  | none => exact .throw _
  | some value => exact .pure value

theorem stateless_operandClassifier (operand : Tree .type) :
    Stateless (operandClassifier operand) := by
  unfold operandClassifier
  cases operand.classifier? with
  | none => exact .throw _
  | some classifier => exact .pure classifier

theorem stateless_requireVariable (parameter : Tree .declaration) :
    Stateless (requireVariable parameter) := by
  unfold requireVariable
  split
  · exact .pure ()
  · exact .throw _

theorem stateless_requireClass (entryClass : Tree (.option .declaration)) :
    Stateless (requireClass entryClass) := by
  unfold requireClass
  split
  · exact .pure ()
  · split
    · exact .pure ()
    · exact .throw _

/-! ## Computations -/

/-- A property of checks, of linking one symbol, of jumps and new numbers, of one computation
after another, and of what is done one level deeper. -/
structure Closed (Goes : {α : Type} → Decode α → Prop) : Prop where
  stateless {α : Type} {computation : Decode α} (stateless : Stateless computation) :
    Goes computation
  bind {α β : Type} {computation : Decode α} {rest : α → Decode β}
    (first : Goes computation) (second : ∀ result, Goes (rest result)) :
    Goes (computation >>= rest)
  descend {α : Type} {computation : Decode α} (inside : Goes computation) :
    Goes (descend computation)
  resolve (record : SymbolRecord) : Goes (resolveSymbol record)
  jump (id : Int32) (label : Option String) : Goes (jumpTo id label)
  number : Goes freshNode

namespace Closed

variable {Goes : {α : Type} → Decode α → Prop} (closed : Closed Goes)

include closed

theorem pure (result : α) : Goes (Pure.pure result : Decode α) :=
  closed.stateless (.pure result)

theorem fail (error : DecodeError) : Goes (throw error : Decode α) :=
  closed.stateless (.throw error)

theorem refuse (what : Unsupported) : Goes (refuse what : Decode α) :=
  closed.fail _

/-- What is made of the result does not matter. -/
theorem map {make : α → β} {computation : Decode α} (goes : Goes computation) :
    Goes (computation >>= fun result => Pure.pure (make result)) :=
  closed.bind goes fun _ => closed.pure _

theorem symbolFor (requirement : Requirement) (record : SymbolRecord) :
    Goes (symbolFor requirement record) :=
  closed.bind (closed.resolve record) fun _ =>
    closed.bind (closed.stateless (stateless_checkKind _ _ _)) fun _ => closed.pure _

theorem symbolFor? (requirement : Requirement) (record : Option SymbolRecord) :
    Goes (symbolFor? requirement record) := by
  cases record with
  | none => exact closed.pure none
  | some record => exact closed.map (closed.symbolFor requirement record)

theorem symbolsFor (requirement : Requirement) (records : List SymbolRecord) :
    Goes (symbolsFor requirement records) := by
  induction records with
  | nil => exact closed.pure []
  | cons record records inductionHypothesis =>
      exact closed.bind (closed.symbolFor requirement record) fun _ =>
        closed.map inductionHypothesis

theorem child (site : Site) (declarator : Tree .declarator) : Goes (child site declarator) :=
  closed.map closed.number

end Closed

/-! ## States -/

/-- However a computation ends, it ends in a state that is related to the first one. -/
def Relates (environment : Environment) (relates : State → State → Prop)
    (computation : Decode α) : Prop :=
  ∀ state, relates state (finalState (computation environment state))

/-- A relation between the states before and after a computation without loops and known
declarations. -/
structure Passage (relates : State → State → Prop) : Prop where
  refl (state : State) : relates state state
  trans {first second third : State} (early : relates first second)
    (late : relates second third) : relates first third
  depth {before after : State} {inner : Nat} (outer : Nat)
    (deeper : relates { before with depth := inner } after) :
    relates before { after with depth := outer }
  added {state : State} {id : UInt64} (symbol : Symbol) (fresh : state.symbols[id]? = none) :
    relates state (state.withSymbols (state.symbols.insert id symbol))
  numbered (state : State) : relates state state.numbered

section Passage

variable {environment : Environment} {relates : State → State → Prop}

theorem Relates.bind {computation : Decode α} {rest : α → Decode β}
    (passage : Passage relates) (first : Relates environment relates computation)
    (second : ∀ result, Relates environment relates (rest result)) :
    Relates environment relates (computation >>= rest) := by
  intro state
  have head := first state
  cases run : computation environment state with
  | ok result middle =>
      rw [run] at head
      rw [bind_of_ok run]
      exact passage.trans head (second result middle)
  | error error middle =>
      rw [run] at head
      rw [bind_of_error run]
      exact head

theorem Relates.descend {computation : Decode α} (passage : Passage relates)
    (inside : Relates environment relates computation) :
    Relates environment relates (descend computation) := by
  intro state
  rcases finalState_descend environment state computation with same | ⟨depth, same⟩
  · rw [same]
    exact passage.refl state
  · rw [same]
    exact passage.depth depth (inside { state with depth := state.depth + 1 })

theorem Passage.closed (passage : Passage relates) :
    Closed (Relates environment relates) where
  stateless := fun stateless state => by
    obtain ⟨outcome, ends⟩ := stateless environment
    rw [ends]
    cases outcome <;> exact passage.refl state
  bind := .bind passage
  descend := .descend passage
  resolve := fun record state => by
    obtain ⟨outcome, after, links⟩ := resolveSymbol_links record environment state.symbols
    have related : relates state (state.withSymbols after) := by
      rcases links.adds with rfl | ⟨added, -, fresh, rfl⟩
      · exact passage.refl state
      · exact passage.added added fresh
    rw [links.runs state rfl]
    cases outcome <;> exact related
  jump := fun id label state => by
    rw [finalState_jumpTo]
    exact passage.refl state
  number := passage.numbered

end Passage

/-! ## Records -/

/-- A property that linking keeps: it holds of linking loops and declarations for certain
records if it holds of linking their parts. -/
structure Linking (Covers : {c : Category} → Record c → Prop)
    (Goes : {α : Type} → Decode α → Prop) : Prop extends Closed Goes where
  loop {kind : LoopKind} {id : Int32} {label : Option String} {condition : Record .expression}
    {body : Record (.option .expression)} (context : Range × Tree .type)
    (covered : Covers (.loop kind id label condition body))
    (bodyGoes : Goes (build body ())) (conditionGoes : Goes (build condition ())) :
    Goes (@build .operation (.loop kind id label condition body) context)
  declaration {range : Range} {origin : String} {annotations : Record (.list .call)}
    {file : String} {declarator : Record .declarator} (parent : Parent)
    (covered : Covers (.declarationNode range origin annotations file declarator))
    (declaratorGoes : ∀ site, Goes (build declarator site))
    (annotationsGo : Goes (build annotations ())) :
    Goes (@build .declaration (.declarationNode range origin annotations file declarator) parent)
  accessor {function : Record .function} (site : Site) (covered : Covers (.asAccessor function))
    (functionGoes : Goes (@build .function function (site, some site.node))) :
    Goes (build (.asAccessor function) site)

/-- Everything inside the records among some items is covered. -/
def CoversItems (Covers : {c : Category} → Record c → Prop) (items : List Item) : Prop :=
  ∀ {c : Category} (record : Record c), .part record ∈ items →
    ∀ {d : Category} (inner : Record d), inner.Inside record → Covers inner

namespace Linking

variable {Covers : {c : Category} → Record c → Prop} {Goes : {α : Type} → Decode α → Prop}
  (linking : Linking Covers Goes) {c d : Category}

include linking

/-- A property that linking keeps holds of linking a record if it holds of linking what is
inside it. -/
theorem layer (record : Record c) (context : Context c) (covered : Covers record)
    (parts : ∀ part ∈ record.parts, ∀ {d : Category} (inner : Record d) (context : Context d),
      inner.Inside part.record → Goes (build inner context)) :
    Goes (build record context) := by
  have part {d : Category} (part : Record d) (context : Context d) (own : ⟨part⟩ ∈ record.parts) :
      Goes (build part context) :=
    parts _ own part context (.self part)
  cases record
  case loop kind id label condition body =>
    exact linking.loop context covered (part body () (.tail _ (.head _)))
      (part condition () (.head _))
  case declarationNode range origin annotations file declarator =>
    exact linking.declaration context covered
      (fun site => part declarator site (.tail _ (.head _))) (part annotations () (.head _))
  case asAccessor function =>
    exact linking.accessor context covered (part (d := .function) function _ (.head _))
  case fieldDeclarator field => exact part (d := .field) field () (.head _)
  case functionDeclarator function => exact part (d := .function) function _ (.head _)
  -- Linking unwraps the access that is read, and statements in special places.
  case getField access type =>
    cases access with
    | fieldAccessNode symbol qualifier receiver =>
        exact linking.bind (linking.symbolFor _ symbol) fun _ =>
          linking.bind (part type () (.tail _ (.head _))) fun _ =>
          linking.bind (linking.symbolFor? _ qualifier) fun _ =>
          linking.map (parts _ (.head _) receiver () (Record.inside_of_parts 0 rfl))
  case asBranch statement =>
    cases statement
    case branchStatement range condition result =>
      exact linking.descend <|
        linking.bind (parts _ (.head _) condition () (Record.inside_of_parts 0 rfl)) fun _ =>
        linking.map (parts _ (.head _) result () (Record.inside_of_parts 1 rfl))
    all_goals exact linking.refuse _
  case asCatch statement =>
    cases statement
    case catchStatement range parameter result =>
      exact linking.descend <|
        linking.bind (parts _ (.head _) parameter Parent.none (Record.inside_of_parts 0 rfl))
          fun _ =>
        linking.bind (linking.stateless (stateless_requireVariable _)) fun _ =>
        linking.map (parts _ (.head _) result () (Record.inside_of_parts 1 rfl))
    all_goals exact linking.refuse _
  case asBody statement =>
    cases statement
    case blockBody range statements =>
      exact linking.descend <|
        linking.map (parts _ (.head _) statements () (Record.inside_of_parts 0 rfl))
    case syntheticBody => exact linking.pure _
    all_goals exact linking.refuse _
  -- All other records are linked part by part.
  all_goals
    first
    | refine linking.bind ?_ fun _ => ?_
    | refine linking.descend ?_
    | exact linking.pure _
    | exact linking.refuse _
  all_goals
    with_reducible
      repeat' first
        | refine linking.bind ?_ fun _ => ?_
        | exact linking.pure _
        | exact linking.refuse _
        | exact linking.symbolFor _ _
        | exact linking.symbolFor? _ _
        | exact linking.symbolsFor _ _
        | exact linking.jump _ _
        | exact linking.child _ _
        | exact linking.stateless (stateless_constantOf _)
        | exact linking.stateless (stateless_operandClassifier _)
        | exact linking.stateless (stateless_requireVariable _)
        | exact linking.stateless (stateless_requireClass _)
        | refine part _ _ ?_
  all_goals
    first
    | exact List.mem_of_getElem? (i := 0) rfl
    | exact List.mem_of_getElem? (i := 1) rfl
    | exact List.mem_of_getElem? (i := 2) rfl
    | exact List.mem_of_getElem? (i := 3) rfl
    | exact List.mem_of_getElem? (i := 4) rfl
    | exact List.mem_of_getElem? (i := 5) rfl

/-- A property that linking keeps holds of linking everything inside a record. -/
theorem inside (record : Record c) : ∀ {d : Category} (inner : Record d), inner.Inside record →
    (∀ {e : Category} (other : Record e), other.Inside record → Covers other) →
    ∀ context : Context d, Goes (build inner context) := by
  induction record using Record.parts_induction with
  | node record inductionHypothesis =>
      intro d inner inside covered context
      have within {part : RecordNode} (own : part ∈ record.parts) {d : Category}
          (inner : Record d) (inside : inner.Inside part.record) (context : Context d) :
          Goes (build inner context) :=
        inductionHypothesis part own inner inside (fun other deeper => covered other
          (.part own deeper)) context
      cases inside with
      | self =>
          exact linking.layer record context (covered record (.self record))
            fun part own _ inner context inside => within own inner inside context
      | part own inside => exact within own inner inside context

/-- A property that linking keeps holds of linking a record. -/
theorem build (record : Record c) (context : Context c)
    (covered : ∀ {d : Category} (inner : Record d), inner.Inside record → Covers inner) :
    Goes (build record context) :=
  linking.inside record record (.self record) covered context

/-! ## Requests -/

theorem sourced (source : Source) (file : String) (id : UniqueId)
    (covered : CoversItems Covers [Request.sourceItem source id]) :
    Goes (sourced source file id) := by
  unfold Decode.sourced
  unfold Request.sourceItem at covered
  cases read : source.declaration id with
  | ok record =>
      rw [read] at covered
      exact linking.build (c := .declaration) record (Parent.file file)
        (covered (c := .declaration) record (.head _))
  | error error => exact linking.fail error

theorem allSourced (source : Source) (file : String) (ids : List UniqueId)
    (covered : CoversItems Covers (ids.map (Request.sourceItem source))) :
    Goes (allSourced source file ids) := by
  induction ids with
  | nil => exact linking.pure []
  | cons id ids inductionHypothesis =>
      refine linking.bind (linking.sourced source file id fun record among => ?_) fun _ =>
        linking.map (inductionHypothesis fun record among => covered record (.tail _ among))
      exact covered record (List.mem_singleton.mp among ▸ .head _)

theorem sourcedFile (source : Source) (header : FileRecord)
    (covered : CoversItems Covers (Request.fileItems source header)) :
    Goes (sourcedFile source header) :=
  linking.map (linking.allSourced source header.name header.declarations covered)

theorem sourcedFiles (source : Source) (headers : List FileRecord)
    (covered : CoversItems Covers (headers.flatMap (Request.fileItems source))) :
    Goes (sourcedFiles source headers) := by
  induction headers with
  | nil => exact linking.pure []
  | cons header headers inductionHypothesis =>
      refine linking.bind (linking.sourcedFile source header fun record among => ?_) fun _ =>
        linking.map (inductionHypothesis fun record among => ?_)
      · exact covered record (List.mem_append_left _ among)
      · exact covered record (List.mem_append_right _ among)

theorem sourcedModule (name : String) (source : Source) (header : ModuleRecord)
    (covered : CoversItems Covers (Request.moduleItems source header)) :
    Goes (sourcedModule name source header) :=
  linking.map (linking.sourcedFiles source header.files covered)

/-- A property that linking keeps holds of requests. -/
theorem request (name : String) (request : Request) (covered : CoversItems Covers request.items) :
    Goes (request.decode name) := by
  have tree {c : Category} (record : Record c) (context : Context c)
      (covered : CoversItems Covers [.part record]) :
      Goes (Decode.build record context >>= fun tree => Pure.pure (Response.tree tree)) :=
    linking.map (linking.build record context (covered record (.head _)))
  cases request with
  | symbol record => exact linking.map (linking.resolve record)
  | type record => exact tree record () covered
  | expression record => exact tree record () covered
  | statement record => exact tree record () covered
  | declaration record parent => exact tree record parent covered
  | file source header => exact linking.map (linking.sourcedFile source header covered)
  | module source header => exact linking.map (linking.sourcedModule name source header covered)
  | moduleBytes source bytes =>
      refine linking.map ?_
      unfold Request.items Request.bytesItems at covered
      unfold sourcedBytes
      cases read : ModuleRecord.ofBytes bytes with
      | ok header =>
          simp only [read] at covered
          exact linking.sourcedModule name source header covered
      | error fault => exact linking.fail _

end Linking

end IrLink.Decode

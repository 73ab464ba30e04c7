import IrLink.Proofs.Decode.Reachable
import IrLink.Proofs.Decode.Tallied

/-!
# Answers to requests

A request that succeeds is answered with a symbol, a tree, a file or a module
(`Request.answer`).  What a loader reads from its source does not depend on the
session, so that each request amounts to a computation of the session alone
(`Request.decode`), which links the items of the request in order
(`Request.items`).  What is proved of computations by rules therefore holds of
requests (`Rules.request`).
-/

namespace IrLink

/-! ## Responses -/

/-- What a request can be answered with. -/
inductive Response where
  | symbol (symbol : Symbol)
  | tree {c : Category} (tree : Tree c)
  | file (file : File)
  | module (module : Module)

namespace Response

/-- The symbol that was asked for. -/
def symbol? : Response → Option Symbol
  | symbol found => some found
  | _ => none

/-- The trees of an answer. -/
def roots : Response → List Node
  | .symbol _ => []
  | .tree root => [⟨root⟩]
  | .file loaded => loaded.declarations.map fun declaration => ⟨declaration⟩
  | .module loaded => loaded.declarations.map fun declaration => ⟨declaration⟩

/-- The marks of the trees of an answer. -/
def marks (response : Response) : List Mark :=
  response.roots.flatMap fun root => root.tree.ownedMarks

theorem marks_file (loaded : File) :
    (Response.file loaded).marks = loaded.declarations.flatMap Tree.ownedMarks :=
  List.flatMap_map _ _ _

theorem marks_module (loaded : Module) :
    (Response.module loaded).marks = loaded.declarations.flatMap Tree.ownedMarks :=
  List.flatMap_map _ _ _

end Response

/-- The end of a loader's work as the session sees it. -/
def Load.outcome {α : Type} : EStateM.Result DecodeError LoadState α →
    EStateM.Result DecodeError State α
  | .ok result state => .ok result state.session
  | .error error state => .error error state.session

/-- What a loader does to a session. -/
def Load.inSession {α : Type} (computation : Load α) : Decode α :=
  fun environment state => outcome (computation environment { session := state })

/-- The answer to a request, and the state to go on with. -/
def Request.answer (environment : Environment) (state : State) (request : Request) :
    EStateM.Result DecodeError State Response :=
  let answered : Decode Response := match request with
    | .symbol record => return .symbol (← Decode.resolveSymbol record)
    | .type record => return .tree (← Decode.buildType record)
    | .expression record => return .tree (← Decode.buildExpression record)
    | .statement record => return .tree (← Decode.buildStatement record)
    | .declaration record parent => return .tree (← Decode.buildDeclaration record parent)
    | .file source record => return .file (← (Load.file source record).inSession)
    | .module source record => return .module (← (Load.module source record).inSession)
    | .moduleBytes source bytes =>
        return .module (← (Load.moduleOfBytes source bytes).inSession)
  answered environment state

/-- An answer leaves the state that the request leaves. -/
theorem Request.finalState_answer (environment : Environment) (state : State)
    (request : Request) :
    finalState (request.answer environment state) = request.after environment state := by
  have mapped {α : Type} (computation : Decode α) (make : α → Response) :
      finalState ((computation >>= fun result => pure (make result)) environment state) =
        finalState (computation environment state) := by
    cases run : computation environment state with
    | ok result after => rw [Decode.bind_of_ok run]; rfl
    | error error after => rw [Decode.bind_of_error run]; rfl
  have loaded {α : Type} (computation : Load α) :
      finalState (computation.inSession environment state) =
        (finalState (computation environment { session := state })).session := by
    unfold Load.inSession
    cases computation environment { session := state } <;> rfl
  cases request with
  | symbol record => exact mapped _ _
  | type record => exact mapped _ _
  | expression record => exact mapped _ _
  | statement record => exact mapped _ _
  | declaration record parent => exact mapped _ _
  | file source record => exact (mapped _ _).trans (loaded _)
  | module source record => exact (mapped _ _).trans (loaded _)
  | moduleBytes source bytes => exact (mapped _ _).trans (loaded _)

/-! ## Loaders -/

/-- The record that a source has under an identifier. -/
def Source.declaration (source : Source) (id : UniqueId) :
    Except DecodeError (Record .declaration) :=
  match source id.index with
  | none => .error (.missingRecord id.index)
  | some bytes =>
      match Record.ofBytes .declaration bytes with
      | .ok record => .ok record
      | .error fault => .error (.malformedRecord fault)

namespace Decode

/-- Link the declaration that a source has under an identifier. -/
def sourced (source : Source) (file : String) (id : UniqueId) : Decode (Tree .declaration) :=
  match source.declaration id with
  | .ok record => buildDeclaration record (.file file)
  | .error error => throw error

/-- Link declarations one after the other. -/
def allSourced (source : Source) (file : String) :
    List UniqueId → Decode (List (Tree .declaration))
  | [] => return []
  | id :: rest => do
    let head ← sourced source file id
    return head :: (← allSourced source file rest)

/-- Link a file. -/
def sourcedFile (source : Source) (record : FileRecord) : Decode File := do
  return ⟨record.name, record.package,
    ← allSourced source record.name record.declarations⟩

/-- Link files one after the other. -/
def sourcedFiles (source : Source) : List FileRecord → Decode (List File)
  | [] => return []
  | record :: rest => do
    let head ← sourcedFile source record
    return head :: (← sourcedFiles source rest)

/-- Link a module over a universe of the given name. -/
def sourcedModule (name : String) (source : Source) (record : ModuleRecord) :
    Decode Module := do
  return ⟨name, ← sourcedFiles source record.files⟩

/-- Link the module whose header stands at the front of bytes. -/
def sourcedBytes (name : String) (source : Source) (bytes : List UInt8) : Decode Module :=
  match ModuleRecord.ofBytes bytes with
  | .ok record => sourcedModule name source record
  | .error fault => throw (.malformedRecord fault)

end Decode

namespace Load

variable {α β : Type} {environment : Environment}

/-- A loader does to the session what a computation of the session does,
whatever was asked for before. -/
def AmountsTo (environment : Environment) (computation : Load α) (linked : Decode α) : Prop :=
  ∀ state, outcome (computation environment state) = linked environment state.session

namespace AmountsTo

theorem pure (result : α) : AmountsTo environment (pure result) (pure result) :=
  fun _ => rfl

theorem bind {computation : Load α} {linked : Decode α} {rest : α → Load β}
    {linkedRest : α → Decode β} (first : AmountsTo environment computation linked)
    (second : ∀ result, AmountsTo environment (rest result) (linkedRest result)) :
    AmountsTo environment (computation >>= rest) (linked >>= linkedRest) := by
  intro state
  have head := first state
  cases run : computation environment state with
  | ok result middle =>
      rw [run] at head
      rw [Decode.bind_of_ok head.symm, ← second result middle]
      simp only [Bind.bind, ReaderT.bind, EStateM.bind, run]
  | error error middle =>
      rw [run] at head
      rw [Decode.bind_of_error head.symm]
      simp only [Bind.bind, ReaderT.bind, EStateM.bind, run]
      rfl

theorem ofDecode (linked : Decode α) : AmountsTo environment (ofDecode linked) linked := by
  intro state
  unfold Load.ofDecode
  cases run : linked environment state.session <;> rfl

theorem ask {source : Source} {id : UInt64} {rest : List UInt8 → Load β}
    {linkedRest : List UInt8 → Decode β}
    (second : ∀ bytes, AmountsTo environment (rest bytes) (linkedRest bytes)) :
    AmountsTo environment (ask source id >>= rest)
      (match source id with
      | some bytes => linkedRest bytes
      | none => throw (.missingRecord id)) := by
  intro state
  unfold Load.ask
  cases source id with
  | none => rfl
  | some bytes => exact second bytes { state with asked := state.asked ++ [id] }

theorem ofBytes {read : Except Bytes.Fault α} {rest : α → Load β}
    {linkedRest : α → Decode β}
    (second : ∀ result, AmountsTo environment (rest result) (linkedRest result)) :
    AmountsTo environment (ofBytes read >>= rest)
      (match read with
      | .ok result => linkedRest result
      | .error fault => throw (.malformedRecord fault)) := by
  intro state
  cases read with
  | error fault => rfl
  | ok result => exact second result state

theorem declaration (source : Source) (file : String) (id : UniqueId) :
    AmountsTo environment (declaration source file id) (Decode.sourced source file id) := by
  have amounts : AmountsTo environment (Load.declaration source file id) _ :=
    .ask fun bytes => .ofBytes fun record =>
      .ofDecode (Decode.buildDeclaration record (.file file))
  unfold Decode.sourced Source.declaration
  cases found : source id.index with
  | none =>
      rw [found] at amounts
      exact amounts
  | some bytes =>
      rw [found] at amounts
      cases read : Record.ofBytes .declaration bytes with
      | error fault => simpa only [read] using amounts
      | ok record => simpa only [read] using amounts

theorem declarations (source : Source) (file : String) (ids : List UniqueId) :
    AmountsTo environment (declarations source file ids)
      (Decode.allSourced source file ids) := by
  induction ids with
  | nil => exact .pure []
  | cons id rest inductionHypothesis =>
      exact .bind (.declaration source file id) fun head =>
        .bind inductionHypothesis fun tail => .pure (head :: tail)

theorem file (source : Source) (record : FileRecord) :
    AmountsTo environment (file source record) (Decode.sourcedFile source record) :=
  .bind (.declarations source record.name record.declarations) fun _ => .pure _

theorem files (source : Source) (records : List FileRecord) :
    AmountsTo environment (files source records) (Decode.sourcedFiles source records) := by
  induction records with
  | nil => exact .pure []
  | cons record rest inductionHypothesis =>
      exact .bind (.file source record) fun head =>
        .bind inductionHypothesis fun tail => .pure (head :: tail)

theorem module (source : Source) (record : ModuleRecord) :
    AmountsTo environment (module source record)
      (Decode.sourcedModule environment.world.name source record) := by
  intro state
  exact AmountsTo.bind (.files source record.files) (fun files => .pure _) state

theorem moduleOfBytes (source : Source) (bytes : List UInt8) :
    AmountsTo environment (moduleOfBytes source bytes)
      (Decode.sourcedBytes environment.world.name source bytes) := by
  have amounts : AmountsTo environment (Load.moduleOfBytes source bytes) _ :=
    .ofBytes fun record => .module source record
  unfold Decode.sourcedBytes
  cases read : ModuleRecord.ofBytes bytes with
  | error fault => simpa only [read] using amounts
  | ok record => simpa only [read] using amounts

theorem inSession {computation : Load α} {linked : Decode α}
    (amounts : AmountsTo environment computation linked) (state : State) :
    computation.inSession environment state = linked environment state :=
  amounts { session := state }

end AmountsTo

end Load

namespace Request

/-! ## Items -/

/-- The item that a source has under an identifier, or the failure to read it. -/
def sourceItem (source : Source) (id : UniqueId) : Item :=
  match source.declaration id with
  | .ok record => .part record
  | .error error => .step (.fail error)

/-- What loading a file links, in order. -/
def fileItems (source : Source) (record : FileRecord) : List Item :=
  record.declarations.map (sourceItem source)

/-- What loading a module links, in order. -/
def moduleItems (source : Source) (record : ModuleRecord) : List Item :=
  record.files.flatMap (fileItems source)

/-- What loading the module whose header stands at the front of bytes links. -/
def bytesItems (source : Source) (bytes : List UInt8) : List Item :=
  match ModuleRecord.ofBytes bytes with
  | .ok record => moduleItems source record
  | .error fault => [.step (.fail (.malformedRecord fault))]

/-- What a request links, in order. -/
def items : Request → List Item
  | .symbol _ => []
  | .type record => [.part record]
  | .expression record => [.part record]
  | .statement record => [.part record]
  | .declaration record _ => [.part record]
  | .file source record => fileItems source record
  | .module source record => moduleItems source record
  | .moduleBytes source bytes => bytesItems source bytes

/-- What a request amounts to, over a universe of the given name. -/
def decode (name : String) : Request → Decode Response
  | .symbol record => return .symbol (← Decode.resolveSymbol record)
  | .type record => return .tree (← Decode.buildType record)
  | .expression record => return .tree (← Decode.buildExpression record)
  | .statement record => return .tree (← Decode.buildStatement record)
  | .declaration record parent => return .tree (← Decode.buildDeclaration record parent)
  | .file source record => return .file (← Decode.sourcedFile source record)
  | .module source record => return .module (← Decode.sourcedModule name source record)
  | .moduleBytes source bytes => return .module (← Decode.sourcedBytes name source bytes)

/-- A request is answered as what it amounts to ends. -/
theorem answer_eq (environment : Environment) (state : State) (request : Request) :
    request.answer environment state =
      request.decode environment.world.name environment state := by
  have loaded {α : Type} {computation : Load α} {linked : Decode α} (make : α → Response)
      (amounts : Load.AmountsTo environment computation linked) :
      (computation.inSession >>= fun result => pure (make result)) environment state =
        (linked >>= fun result => pure (make result)) environment state := by
    simp only [Bind.bind, ReaderT.bind, EStateM.bind, amounts.inSession]
  cases request with
  | file source record => exact loaded .file (.file source record)
  | module source record => exact loaded .module (.module source record)
  | moduleBytes source bytes => exact loaded .module (.moduleOfBytes source bytes)
  | _ => rfl

end Request

/-! ## Requests by rules -/

/-- What is said of the answer to a request that links some items: a symbol that
was asked for is found, the marks of all trees are known, and the trees keep the
declarations of the items. -/
structure Response.Tallied (holds : Mark → Prop) (counted : UInt64 → Bool)
    (found : Symbol → Prop) (items : List Item) (response : Response) : Prop where
  symbol : ∀ symbol, response.symbol? = some symbol → found symbol
  tally : Tally holds counted response.marks (items.map (Item.kept counted)).sum

namespace Decode.Rules

variable {holds : Mark → Prop} {counted : UInt64 → Bool} {found : Symbol → Prop}
  {Ensures : {α : Type} → Prop → Decode α → List LinkStep → (α → Prop) → Prop}
  {given : Prop} (rules : Rules holds counted Ensures)

include rules

theorem sourced (source : Source) (file : String) (id : UniqueId) :
    Ensures given (Decode.sourced source file id) (Request.sourceItem source id).effects
      fun tree => Tally holds counted tree.ownedMarks
        ((Request.sourceItem source id).kept counted) := by
  unfold Decode.sourced Request.sourceItem
  cases read : source.declaration id with
  | ok record =>
      refine rules.weaken (build_tallied (c := .declaration) rules record (Parent.file file)
        fun _ => trivial) fun tree tallied => ?_
      exact tallied.2.tally
  | error error =>
      refine rules.fail _ _ fun _ _ => ?_
      unfold Source.declaration at read
      rintro rfl
      split at read
      · cases read
      · split at read <;> cases read

theorem allSourced (source : Source) (file : String) (ids : List UniqueId) :
    Ensures given (Decode.allSourced source file ids)
      ((ids.map (Request.sourceItem source)).flatMap Item.effects) fun trees =>
        Tally holds counted (trees.flatMap Tree.ownedMarks)
          ((ids.map (Request.sourceItem source)).map (Item.kept counted)).sum := by
  induction ids generalizing given with
  | nil => exact rules.pure fun _ => .nil
  | cons id rest inductionHypothesis =>
      refine rules.andThen (rules.sourced source file id) fun head => ?_
      refine rules.map inductionHypothesis fun tail => ?_
      rintro ⟨⟨_, first⟩, second⟩
      exact first.append second

theorem sourcedFile (source : Source) (record : FileRecord) :
    Ensures given (Decode.sourcedFile source record)
      ((Request.fileItems source record).flatMap Item.effects) fun file =>
        Tally holds counted (file.declarations.flatMap Tree.ownedMarks)
          ((Request.fileItems source record).map (Item.kept counted)).sum :=
  rules.map (rules.allSourced source record.name record.declarations) fun _ known => known.2

theorem sourcedFiles (source : Source) (records : List FileRecord) :
    Ensures given (Decode.sourcedFiles source records)
      ((records.flatMap (Request.fileItems source)).flatMap Item.effects) fun files =>
        Tally holds counted ((files.flatMap (·.declarations)).flatMap Tree.ownedMarks)
          ((records.flatMap (Request.fileItems source)).map (Item.kept counted)).sum := by
  induction records generalizing given with
  | nil => exact rules.pure fun _ => .nil
  | cons record rest inductionHypothesis =>
      rw [List.flatMap_cons, List.flatMap_append, List.map_append, List.sum_append]
      refine rules.bind (rules.sourcedFile source record) fun head => ?_
      refine rules.map inductionHypothesis fun tail => ?_
      rintro ⟨⟨_, first⟩, second⟩
      rw [List.flatMap_cons, List.flatMap_append]
      exact first.append second

theorem sourcedModule (name : String) (source : Source) (record : ModuleRecord) :
    Ensures given (Decode.sourcedModule name source record)
      ((Request.moduleItems source record).flatMap Item.effects) fun module =>
        Tally holds counted (module.declarations.flatMap Tree.ownedMarks)
          ((Request.moduleItems source record).map (Item.kept counted)).sum :=
  rules.map (rules.sourcedFiles source record.files) fun _ known => known.2

theorem sourcedBytes (name : String) (source : Source) (bytes : List UInt8) :
    Ensures given (Decode.sourcedBytes name source bytes)
      ((Request.bytesItems source bytes).flatMap Item.effects) fun module =>
        Tally holds counted (module.declarations.flatMap Tree.ownedMarks)
          ((Request.bytesItems source bytes).map (Item.kept counted)).sum := by
  unfold Decode.sourcedBytes Request.bytesItems
  cases ModuleRecord.ofBytes bytes with
  | ok record => exact rules.sourcedModule name source record
  | error fault => exact rules.fail _ _ fun _ _ => by rintro ⟨⟩

/-- Linking a record that stands for itself. -/
theorem tree {c : Category} (record : Record c) (context : Context c)
    (known : given → context.Holds holds) (role : c.role = .declaration := by rfl)
    (without : c.takesType = false := by rfl) :
    Ensures given (build record context >>= fun tree => Pure.pure (Response.tree tree))
      ([Item.part record].flatMap Item.effects)
      (Response.Tallied holds counted found [.part record]) := by
  refine rules.last (build_tallied rules record context known) fun tree => ?_
  rintro ⟨_, tallied⟩
  refine ⟨fun _ => by rintro ⟨⟩, ?_⟩
  have tally := tallied.tally
  rw [Record.added_eq_zero counted without, role] at tally
  refine (Tally.append tally .nil).cast ?_
  simp

/-- Answering a request goes by rules if finding a symbol does. -/
theorem request (resolves : ∀ record, Ensures given (resolveSymbol record) [] found)
    (name : String) (request : Request) :
    Ensures given (request.decode name) (request.items.flatMap Item.effects)
      (Response.Tallied holds counted found request.items) := by
  cases request with
  | symbol record =>
      refine rules.map (resolves record) fun symbol => ?_
      rintro ⟨_, resolved⟩
      refine ⟨fun other => ?_, .nil⟩
      rintro ⟨⟩
      exact resolved
  | type record => exact rules.tree record () fun _ => trivial
  | expression record => exact rules.tree record () fun _ => trivial
  | statement record => exact rules.tree record () fun _ => trivial
  | declaration record parent => exact rules.tree record parent fun _ => trivial
  | file source record =>
      refine rules.map (rules.sourcedFile source record) fun file => ?_
      rintro ⟨_, tally⟩
      refine ⟨fun _ => by rintro ⟨⟩, ?_⟩
      rw [Response.marks_file]
      exact tally
  | module source record =>
      refine rules.map (rules.sourcedModule name source record) fun module => ?_
      rintro ⟨_, tally⟩
      refine ⟨fun _ => by rintro ⟨⟩, ?_⟩
      rw [Response.marks_module]
      exact tally
  | moduleBytes source bytes =>
      refine rules.map (rules.sourcedBytes name source bytes) fun module => ?_
      rintro ⟨_, tally⟩
      refine ⟨fun _ => by rintro ⟨⟩, ?_⟩
      rw [Response.marks_module]
      exact tally

end Decode.Rules

end IrLink

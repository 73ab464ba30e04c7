import IrLink.Proofs.Decode.Drawn

/-!
# Back links of trees that were built

A record gives a sound tree: what a declaration holds is linked back to it, and a number
occurs at most as often as it was drawn (`Decode.build_draws`).  The same follows for the
declarations of files and modules, which belong to their files; so every request is answered
with trees in which all links are right (`Request.well_linked`).
-/

namespace IrLink

namespace Decode

variable {number : Nat}

/-! ## Files and modules -/

/-- Declarations that belong to a file, with their numbers. -/
structure InFile (number : Nat) (file : String) (trees : List (Tree .declaration))
    (used : Nat) : Prop where
  belong : ∀ tree ∈ trees, tree.BelongsTo (.file file) none
  sound : Tree.AllSound number (trees.map fun tree => ⟨tree⟩) used

/-- Files to which their declarations belong, with the numbers of these. -/
structure InFiles (number : Nat) (files : List File) (used : Nat) : Prop where
  belong : ∀ file ∈ files, ∀ tree ∈ file.declarations, tree.BelongsTo (.file file.name) none
  sound : Tree.AllSound number
    ((files.flatMap (·.declarations)).map fun tree => ⟨tree⟩) used

theorem sourced_draws (source : Source) (file : String) (id : UniqueId) :
    Draws number (sourced source file id) fun tree used =>
      tree.BelongsTo (.file file) none ∧ tree.Sound number used := by
  unfold sourced
  cases source.declaration id with
  | ok record => exact build_draws record (Parent.file file) trivial
  | error error => exact .fail error

theorem allSourced_draws (source : Source) (file : String) (ids : List UniqueId) :
    Draws number (allSourced source file ids) (InFile number file) := by
  induction ids with
  | nil => exact .pure ⟨List.forall_mem_nil _, .nil⟩
  | cons id ids inductionHypothesis =>
    refine .bind (sourced_draws source file id) fun _ _ first => ?_
    refine .bind inductionHypothesis fun _ _ rest => .pure ⟨?_, ?_⟩
    · exact List.forall_mem_cons.mpr ⟨first.1, rest.belong⟩
    · exact .cons first.2 rest.sound

theorem sourcedFile_draws (source : Source) (header : FileRecord) :
    Draws number (sourcedFile source header) fun file =>
      InFile number file.name file.declarations :=
  .bind (allSourced_draws source header.name header.declarations) fun _ _ inFile =>
    .pure inFile

theorem sourcedFiles_draws (source : Source) (headers : List FileRecord) :
    Draws number (sourcedFiles source headers) (InFiles number) := by
  induction headers with
  | nil => exact .pure ⟨List.forall_mem_nil _, .nil⟩
  | cons header headers inductionHypothesis =>
    refine .bind (sourcedFile_draws source header) fun _ _ first => ?_
    refine .bind inductionHypothesis fun _ _ rest => .pure ⟨?_, ?_⟩
    · exact List.forall_mem_cons.mpr ⟨first.belong, rest.belong⟩
    · rw [List.flatMap_cons, List.map_append]
      exact first.sound.append rest.sound

theorem sourcedModule_draws (name : String) (source : Source) (header : ModuleRecord) :
    Draws number (sourcedModule name source header) fun module =>
      InFiles number module.files :=
  .bind (sourcedFiles_draws source header.files) fun _ _ inFiles => .pure inFiles

theorem sourcedBytes_draws (name : String) (source : Source) (bytes : List UInt8) :
    Draws number (sourcedBytes name source bytes) fun module =>
      InFiles number module.files := by
  unfold sourcedBytes
  cases ModuleRecord.ofBytes bytes with
  | ok header => exact sourcedModule_draws name source header
  | error fault => exact .fail _

end Decode

/-! ## Requests -/

/-- The files of an answer. -/
def Response.files : Response → List File
  | .file loaded => [loaded]
  | .module loaded => loaded.files
  | _ => []

/-- What an answer itself is linked to. -/
structure Response.RootsLinked (request : Request) (response : Response) : Prop where
  /-- Nothing but the trees of the answer is held for the outside, and none of them serves
  a property. -/
  outermost : ∀ root ∈ response.roots, ∀ declaration ∈ root.tree.outermost,
    root = ⟨declaration⟩ ∧ declaration.declarator.served? = none
  /-- A declaration belongs to what was asked for. -/
  asked : ∀ record parent, request = .declaration record parent →
    ∃ declaration : Tree .declaration, response = .tree declaration ∧
      declaration.parent = parent
  /-- The declarations of a file belong to it. -/
  files : ∀ file ∈ response.files, ∀ declaration ∈ file.declarations,
    declaration.parent = .file file.name

/-- What is said of the answer to a request. -/
structure Response.Drawn (number : Nat) (request : Request) (response : Response)
    (used : Nat) : Prop where
  roots : response.RootsLinked request
  sound : Tree.AllSound number response.roots used

/-- A request draws the numbers of the trees that it is answered with. -/
theorem Request.draws (number : Nat) (name : String) (request : Request) :
    Decode.Draws number (request.decode name) fun response used =>
      response.Drawn number request used := by
  have plain {c : Category} (record : Record c) (context : Context c)
      (known : context.Sound number 0) (without : c.built.holdsForOutside = false)
      (notDeclaration : ∀ record parent, request ≠ .declaration record parent) :
      Decode.Draws number
        (Decode.build record context >>= fun tree => pure (Response.tree tree))
        fun response used => response.Drawn number request used := by
    refine .bind (Decode.build_draws record context known) fun tree used built => .pure ⟨?_, ?_⟩
    · refine ⟨List.forall_mem_singleton.mpr fun declaration outer => ?_,
        fun record parent same => (notDeclaration record parent same).elim,
        List.forall_mem_nil _⟩
      rw [Tree.outermost_eq_nil without] at outer
      cases outer
    · exact .cons built.2 .nil
  have loaded {files : List File} {used : Nat} {response : Response}
      (inFiles : Decode.InFiles number files used) (same : response.files = files)
      (roots : response.roots =
        (files.flatMap (·.declarations)).map fun declaration => ⟨declaration⟩)
      (notDeclaration : ∀ record parent, request ≠ .declaration record parent) :
      response.Drawn number request used := by
    refine ⟨⟨?_, fun record parent same => (notDeclaration record parent same).elim, ?_⟩, ?_⟩
    · rw [roots]
      refine List.forall_mem_map.mpr fun declaration among other outer => ?_
      obtain ⟨file, isFile, among⟩ := List.mem_flatMap.mp among
      cases List.mem_singleton.mp outer
      exact ⟨rfl, (inFiles.belong file isFile declaration among).2⟩
    · rw [same]
      exact fun file isFile declaration among => (inFiles.belong file isFile declaration among).1
    · rw [roots]
      exact inFiles.sound
  cases request with
  | symbol record =>
    refine .level (.resolveSymbol record) fun _ _ => .pure ⟨⟨?_, ?_, ?_⟩, ?_⟩
    · exact List.forall_mem_nil _
    · rintro _ _ ⟨⟩
    · exact List.forall_mem_nil _
    · exact ⟨.nil, List.forall_mem_nil _, Nat.zero_le _⟩
  | type record => exact plain record () trivial rfl (by rintro _ _ ⟨⟩)
  | expression record => exact plain record () trivial rfl (by rintro _ _ ⟨⟩)
  | statement record => exact plain record () trivial rfl (by rintro _ _ ⟨⟩)
  | declaration record parent =>
    refine .bind (Decode.build_draws record parent trivial) fun tree used built =>
      .pure ⟨⟨?_, ?_, List.forall_mem_nil _⟩, .cons built.2 .nil⟩
    · refine List.forall_mem_singleton.mpr fun declaration outer => ?_
      cases List.mem_singleton.mp outer
      exact ⟨rfl, built.1.2⟩
    · rintro _ _ ⟨⟩
      exact ⟨tree, rfl, built.1.1⟩
  | file source header =>
    refine .bind (Decode.sourcedFile_draws source header) fun file used inFile => .pure ?_
    have declarations : [file].flatMap (·.declarations) = file.declarations :=
      List.flatMap_singleton _ _
    have inFiles : Decode.InFiles number [file] used :=
      ⟨List.forall_mem_singleton.mpr inFile.belong, declarations ▸ inFile.sound⟩
    exact loaded inFiles rfl (declarations ▸ rfl) (by rintro _ _ ⟨⟩)
  | module source header =>
    exact .bind (Decode.sourcedModule_draws name source header) fun _ _ inFiles =>
      .pure (loaded inFiles rfl rfl (by rintro _ _ ⟨⟩))
  | moduleBytes source bytes =>
    exact .bind (Decode.sourcedBytes_draws name source bytes) fun _ _ inFiles =>
      .pure (loaded inFiles rfl rfl (by rintro _ _ ⟨⟩))

/-- The numbers of the declarations in an answer. -/
def Response.declarations (response : Response) : List Nat :=
  response.roots.flatMap fun root => root.tree.declarations

/-- A request is answered with trees in which all links are right, at every depth, and
that are linked themselves to what was asked for.  The declarations of an answer have
numbers of their own, and these were not given before. -/
theorem Request.well_linked {environment : Environment} {state after : State}
    {request : Request} {response : Response}
    (answers : request.answer environment state = .ok response after) :
    (∀ root ∈ response.roots, root.tree.WellLinked) ∧ response.RootsLinked request ∧
      response.declarations.Nodup ∧
      ∀ number ∈ response.declarations, state.nextNode ≤ number ∧ number < after.nextNode := by
  rw [request.answer_eq] at answers
  have drawn (number : Nat) :=
    (request.draws number environment.world.name environment state after response answers).2
  have counted (number : Nat) :
      response.declarations.count number ≤ state.drawn number after :=
    (drawn number).sound.count
  have distinct : response.declarations.Nodup := by
    refine List.nodup_iff_count_le_one.mpr fun number => Nat.le_trans (counted number) ?_
    unfold State.drawn
    split <;> omega
  refine ⟨fun root isRoot => ?_, (drawn 0).roots, distinct, fun number among => ?_⟩
  · have linked := (drawn 0).sound.linked root isRoot
    refine linked.wellLinked (distinct.sublist ?_)
    exact List.sublist_flatten_of_mem (List.mem_map.mpr ⟨root, isRoot, rfl⟩)
  · have occurs := Nat.lt_of_lt_of_le (List.count_pos_iff.mpr among) (counted number)
    unfold State.drawn at occurs
    split at occurs
    · assumption
    · cases occurs

/-- The record of a class with a property that has storage and a getter. -/
def Record.classWithProperty : Record .declaration :=
  let type : Record .type := .dynamicType .nil .invariant
  let storage : Record .field :=
    .fieldNode ⟨.symbol .field, ⟨1001, false⟩, .none⟩ "p" type "private" ⟨true, false, false⟩ .none
  let getter : Record .function :=
    .functionNode ⟨.symbol .function, ⟨1002, false⟩, .none⟩ ⟨"get", "public", false, false⟩
      (.signatureNode type .none .nil .none .none .nil) .final false false []
  .declarationNode .zero "DEFINED" .nil "" <|
    .classDeclarator ⟨.symbol .klass, ⟨1000, false⟩, .none⟩ "A" .plain "public" .final
      ⟨false, false, false, false, false⟩
      (.cons (.declarationNode .zero "DEFINED" .nil "" <|
        .property "p" "public" .final ⟨false, false, false, false, false⟩
          (.some (.asBackingField storage)) (.some (.asAccessor getter)) .none) .nil)
      .none .nil .nil

/-- The storage and the getter of a property are linked to it, and the property to its
class. -/
theorem Request.well_linked_classWithProperty :
    ∃ response after,
      (Request.declaration .classWithProperty (.file "a")).answer
        ⟨⟨"", .empty, [], []⟩, {}⟩ .initial = .ok response after ∧
      (response.roots.flatMap fun root => root.tree.declarationNodes.map Tree.parent) =
        [.file "a", .declaration 22, .declaration 23, .declaration 23] ∧
      ((∀ root ∈ response.roots, root.tree.WellLinked) ∧
        response.RootsLinked (.declaration .classWithProperty (.file "a")) ∧
        response.declarations.Nodup ∧
        ∀ number ∈ response.declarations,
          State.initial.nextNode ≤ number ∧ number < after.nextNode) := by
  have answers : ∃ response after,
      (Request.declaration .classWithProperty (.file "a")).answer
        ⟨⟨"", .empty, [], []⟩, {}⟩ .initial = .ok response after ∧
      (response.roots.flatMap fun root => root.tree.declarationNodes.map Tree.parent) =
        [.file "a", .declaration 22, .declaration 23, .declaration 23] := ⟨_, _, rfl, rfl⟩
  rcases answers with ⟨response, after, answers, parents⟩
  exact ⟨response, after, answers, parents, Request.well_linked answers⟩

end IrLink

import IrLink.Proofs.Decode.Loader
import IrLink.Proofs.Record.Codec

/-!
# Loading in order

A loader works through the files of a module and the declarations of a file one
after the other, and each in the state that the one before has left.  So a load may
be split anywhere (`Load.module_inTurn`, `Load.file_inTurn`), every declaration is linked
in the state that loading all before it leaves, and the byte source is asked for what the
header mentions, in order and up to the declaration that fails.
-/

namespace IrLink

/-- The identifiers that the header of a file mentions, in order. -/
def FileRecord.ids (header : FileRecord) : List UInt64 :=
  header.declarations.map (·.index)

/-- The header of a file, cut off behind `count` declarations. -/
def FileRecord.upTo (header : FileRecord) (count : Nat) : FileRecord :=
  { header with declarations := header.declarations.take count }

/-- The identifiers that the header of a module mentions, in order. -/
def ModuleRecord.ids (header : ModuleRecord) : List UInt64 :=
  header.files.flatMap FileRecord.ids

/-- The header of a module, cut off in front of a declaration of a file. -/
def ModuleRecord.upTo (header : ModuleRecord) (file declaration : Nat) : ModuleRecord :=
  { header with
    files := header.files.take file ++ (header.files[file]?.map (·.upTo declaration)).toList }

namespace Load

variable {κ : Type} {environment : Environment} {source : Source} {state after : LoadState}

/-! ## What is asked for -/

theorem asked_of_file {header : FileRecord} {loaded : File}
    (run : file source header environment state = .ok loaded after) :
    after.asked = state.asked ++ header.ids := by
  have asked := asked_of_mapM asked_of_declaration (file_ok_iff.mp run).2.2
  rwa [← List.map_eq_flatMap] at asked

theorem asked_of_module {header : ModuleRecord} {loaded : Module}
    (run : module source header environment state = .ok loaded after) :
    after.asked = state.asked ++ header.ids :=
  asked_of_mapM asked_of_file (module_ok_iff.mp run).2

/-! ## What is in front of a declaration -/

theorem split_of_getElem? {items : List κ} {place : Nat} {item : κ}
    (there : items[place]? = some item) :
    items.take place ++ item :: items.drop (place + 1) = items := by
  rcases List.getElem?_eq_some_iff.mp there with ⟨bound, rfl⟩
  rw [← List.drop_eq_getElem_cons bound, List.take_append_drop]

/-- What is in front of a declaration is loaded file by file, and of its file
declaration by declaration. -/
theorem module_upTo {header : ModuleRecord} {place count : Nat} {fileHeader : FileRecord}
    {files : List File} {trees : List (Tree .declaration)} {start before : LoadState}
    (item : header.files[place]? = some fileHeader)
    (filesRun : (header.files.take place).mapM (file source) environment state =
      .ok files start)
    (treesRun : (fileHeader.declarations.take count).mapM (declaration source fileHeader.name)
      environment start = .ok trees before) :
    ∃ loaded, module source (header.upTo place count) environment state = .ok loaded before := by
  have fileRun : file source (fileHeader.upTo count) environment start =
      .ok ⟨fileHeader.name, fileHeader.package, trees⟩ before :=
    file_ok_iff.mpr ⟨rfl, rfl, treesRun⟩
  have last : [fileHeader.upTo count].mapM (file source) environment start =
      .ok [⟨fileHeader.name, fileHeader.package, trees⟩] before :=
    (inTurn_cons _ []).ok_iff.mpr ⟨_, before, [], fileRun, mapM_nil_ok_iff.mpr ⟨rfl, rfl⟩, rfl⟩
  refine ⟨⟨environment.world.name, files ++ [⟨fileHeader.name, fileHeader.package, trees⟩]⟩,
    module_ok_iff.mpr ⟨rfl, ?_⟩⟩
  have upTo : (header.upTo place count).files =
      header.files.take place ++ [fileHeader.upTo count] := by
    simp [ModuleRecord.upTo, item]
  rw [upTo]
  exact (inTurn_append _ _).ok_iff.mpr ⟨files, start, _, filesRun, last, rfl⟩

/-- A header mentions what is in front of a declaration, and then the declaration. -/
theorem ids_upTo_prefix {header : ModuleRecord} {place index : Nat} {fileHeader : FileRecord}
    {id : UniqueId} (item : header.files[place]? = some fileHeader)
    (there : fileHeader.declarations[index]? = some id) :
    (header.upTo place index).ids ++ [id.index] <+: header.ids := by
  refine ⟨(fileHeader.declarations.drop (index + 1)).map (·.index) ++
    (header.files.drop (place + 1)).flatMap FileRecord.ids, ?_⟩
  have whole : header.ids = (header.files.take place).flatMap FileRecord.ids ++
      (fileHeader.ids ++ (header.files.drop (place + 1)).flatMap FileRecord.ids) := by
    rw [ModuleRecord.ids, ← List.flatMap_cons, ← List.flatMap_append, split_of_getElem? item]
  have inFile : fileHeader.ids = (fileHeader.upTo index).ids ++
      id.index :: (fileHeader.declarations.drop (index + 1)).map (·.index) := by
    rw [FileRecord.ids, FileRecord.ids, FileRecord.upTo, ← List.map_cons, ← List.map_append,
      split_of_getElem? there]
  rw [whole, inFile]
  simp [ModuleRecord.ids, ModuleRecord.upTo, item]

/-! ## Loads -/

/-- The files of two headers are loaded in turn. -/
theorem module_inTurn (name firstName secondName : String) (first second : List FileRecord) :
    InTurn environment (module source ⟨name, first ++ second⟩) (module source ⟨firstName, first⟩)
      (module source ⟨secondName, second⟩)
      fun front back => ⟨environment.world.name, front.files ++ back.files⟩ where
  ok_iff := by
    intro state result after
    simp only [module_ok_iff, (inTurn_append first second).ok_iff]
    constructor
    · rcases result with ⟨_, _⟩
      rintro ⟨rfl, front, middle, back, frontRun, backRun, rfl⟩
      exact ⟨⟨_, front⟩, middle, ⟨_, back⟩, ⟨rfl, frontRun⟩, ⟨rfl, backRun⟩, rfl⟩
    · rintro ⟨front, middle, back, ⟨-, frontRun⟩, ⟨-, backRun⟩, rfl⟩
      exact ⟨rfl, front.files, middle, back.files, frontRun, backRun, rfl⟩
  error_iff := by
    intro state error after
    simp only [module_ok_iff, module_error_iff, (inTurn_append first second).error_iff]
    constructor
    · rintro (frontRun | ⟨front, middle, frontRun, backRun⟩)
      · exact .inl frontRun
      · exact .inr ⟨⟨_, front⟩, middle, ⟨rfl, frontRun⟩, backRun⟩
    · rintro (frontRun | ⟨front, middle, ⟨-, frontRun⟩, backRun⟩)
      · exact .inl frontRun
      · exact .inr ⟨front.files, middle, frontRun, backRun⟩

/-- The declarations of two headers of one file are loaded in turn. -/
theorem file_inTurn (name package : String) (first second : List UniqueId) :
    InTurn environment (file source ⟨name, package, first ++ second⟩)
      (file source ⟨name, package, first⟩) (file source ⟨name, package, second⟩)
      fun front back => ⟨name, package, front.declarations ++ back.declarations⟩ where
  ok_iff := by
    intro state result after
    simp only [file_ok_iff, (inTurn_append first second).ok_iff]
    constructor
    · rcases result with ⟨_, _, _⟩
      rintro ⟨rfl, rfl, front, middle, back, frontRun, backRun, rfl⟩
      exact ⟨⟨_, _, front⟩, middle, ⟨_, _, back⟩, ⟨rfl, rfl, frontRun⟩, ⟨rfl, rfl, backRun⟩, rfl⟩
    · rintro ⟨front, middle, back, ⟨-, -, frontRun⟩, ⟨-, -, backRun⟩, rfl⟩
      exact ⟨rfl, rfl, front.declarations, middle, back.declarations, frontRun, backRun, rfl⟩
  error_iff := by
    intro state error after
    simp only [file_ok_iff, file_error_iff, (inTurn_append first second).error_iff]
    constructor
    · rintro (frontRun | ⟨front, middle, frontRun, backRun⟩)
      · exact .inl frontRun
      · exact .inr ⟨⟨_, _, front⟩, middle, ⟨rfl, rfl, frontRun⟩, backRun⟩
    · rintro (frontRun | ⟨front, middle, ⟨-, -, frontRun⟩, backRun⟩)
      · exact .inl frontRun
      · exact .inr ⟨front.declarations, middle, frontRun, backRun⟩

/-- A file is loaded with the name and the package of its header, and each of its
declarations is linked in the state that all before it leave. -/
theorem loaded_of_module {header : ModuleRecord} {loaded : Module}
    (run : module source header environment state = .ok loaded after) {place : Nat}
    {fileHeader : FileRecord} {loadedFile : File} (item : header.files[place]? = some fileHeader)
    (given : loaded.files[place]? = some loadedFile) :
    loadedFile.name = fileHeader.name ∧ loadedFile.package = fileHeader.package ∧
      loadedFile.declarations.length = fileHeader.declarations.length ∧
      ∀ (index : Nat) (id : UniqueId) (tree : Tree .declaration),
        fileHeader.declarations[index]? = some id →
        loadedFile.declarations[index]? = some tree →
        ∃ front before next, module source (header.upTo place index) environment state =
            .ok front before ∧
          declaration source fileHeader.name id environment before = .ok tree next := by
  rcases item_of_mapM (module_ok_iff.mp run).2 item given with ⟨done, start, _, doneRun, fileRun⟩
  rcases file_ok_iff.mp fileRun with ⟨named, packaged, treesRun⟩
  refine ⟨named, packaged, length_of_mapM treesRun, fun index id tree there treeGiven => ?_⟩
  rcases item_of_mapM treesRun there treeGiven with ⟨trees, before, next, beforeRun, treeRun⟩
  rcases module_upTo item doneRun beforeRun with ⟨front, frontRun⟩
  exact ⟨front, before, next, frontRun, treeRun⟩

/-- Where a module fails, one of its declarations does, in the state that all before it
leave. -/
theorem failed_of_module {header : ModuleRecord} {error : DecodeError}
    (run : module source header environment state = .error error after) :
    ∃ place fileHeader index id front before, header.files[place]? = some fileHeader ∧
      fileHeader.declarations[index]? = some id ∧
      module source (header.upTo place index) environment state = .ok front before ∧
      declaration source fileHeader.name id environment before = .error error after := by
  rcases item_of_mapM_error (module_error_iff.mp run) with
    ⟨place, fileHeader, done, start, item, doneRun, fileRun⟩
  rcases item_of_mapM_error (file_error_iff.mp fileRun) with
    ⟨index, id, trees, before, there, beforeRun, failed⟩
  rcases module_upTo item doneRun beforeRun with ⟨front, frontRun⟩
  exact ⟨place, fileHeader, index, id, front, before, item, there, frontRun, failed⟩

/-- A header that is read from its bytes is loaded as the header is. -/
theorem moduleOfBytes_write (header : ModuleRecord) (rest : List UInt8)
    (fits : (Bytes.write header).length < UInt64.size) :
    moduleOfBytes source (Bytes.write header ++ rest) = module source header := by
  unfold moduleOfBytes
  rw [header.ofBytes_write_append fits rest]
  rfl

/-- Loading goes from left to right and may be split anywhere: between files, and between
the declarations of a file.  A module that is loaded has the files of its header, each with
its name and package, and each declaration is linked from its bytes, below its file, in the
state that loading all in front of it leaves.  What is asked for is what the header mentions,
in order and once a mention; where loading fails it is what the header mentions up to the
declaration that fails.  A header may also be read from its bytes, whatever follows them. -/
theorem loads_in_order (environment : Environment) (source : Source) :
    (∀ (name firstName secondName : String) (first second : List FileRecord),
      InTurn environment (module source ⟨name, first ++ second⟩)
        (module source ⟨firstName, first⟩) (module source ⟨secondName, second⟩)
        fun front back => ⟨environment.world.name, front.files ++ back.files⟩) ∧
    (∀ (name package : String) (first second : List UniqueId),
      InTurn environment (file source ⟨name, package, first ++ second⟩)
        (file source ⟨name, package, first⟩) (file source ⟨name, package, second⟩)
        fun front back => ⟨name, package, front.declarations ++ back.declarations⟩) ∧
    (∀ (header : ModuleRecord) (state after : LoadState) (loaded : Module),
      module source header environment state = .ok loaded after →
      loaded.name = environment.world.name ∧
      loaded.files.length = header.files.length ∧
      after.asked = state.asked ++ header.ids ∧
      ∀ (place : Nat) (fileHeader : FileRecord) (loadedFile : File),
        header.files[place]? = some fileHeader → loaded.files[place]? = some loadedFile →
        loadedFile.name = fileHeader.name ∧ loadedFile.package = fileHeader.package ∧
        loadedFile.declarations.length = fileHeader.declarations.length ∧
        ∀ (index : Nat) (id : UniqueId) (tree : Tree .declaration),
          fileHeader.declarations[index]? = some id →
          loadedFile.declarations[index]? = some tree →
          ∃ front before bytes record session,
            module source (header.upTo place index) environment state = .ok front before ∧
            source id.index = some bytes ∧
            Record.ofBytes .declaration bytes = .ok record ∧
            Decode.buildDeclaration record (.file fileHeader.name) environment before.session =
              .ok tree session) ∧
    (∀ (header : ModuleRecord) (state after : LoadState) (error : DecodeError),
      module source header environment state = .error error after →
      ∃ place fileHeader index id front before,
        header.files[place]? = some fileHeader ∧
        fileHeader.declarations[index]? = some id ∧
        module source (header.upTo place index) environment state = .ok front before ∧
        declaration source fileHeader.name id environment before = .error error after ∧
        after.asked = state.asked ++ ((header.upTo place index).ids ++ [id.index]) ∧
        (header.upTo place index).ids ++ [id.index] <+: header.ids) ∧
    (∀ (header : ModuleRecord) (rest : List UInt8), (Bytes.write header).length < UInt64.size →
      moduleOfBytes source (Bytes.write header ++ rest) = module source header) := by
  refine ⟨module_inTurn, file_inTurn, ?_, ?_, moduleOfBytes_write⟩
  · intro header state after loaded run
    refine ⟨(module_ok_iff.mp run).1, length_of_mapM (module_ok_iff.mp run).2,
      asked_of_module run, fun place fileHeader loadedFile item given => ?_⟩
    rcases loaded_of_module run item given with ⟨named, packaged, count, trees⟩
    refine ⟨named, packaged, count, fun index id tree there treeGiven => ?_⟩
    rcases trees index id tree there treeGiven with ⟨front, before, next, frontRun, treeRun⟩
    rcases declaration_ok_iff.mp treeRun with
      ⟨bytes, record, session, found, decoded, built, -⟩
    exact ⟨front, before, bytes, record, session, frontRun, found, decoded, built⟩
  · intro header state after error run
    rcases failed_of_module run with
      ⟨place, fileHeader, index, id, front, before, item, there, frontRun, failed⟩
    refine ⟨place, fileHeader, index, id, front, before, item, there, frontRun, failed, ?_,
      ids_upTo_prefix item there⟩
    rw [asked_of_declaration_error failed, asked_of_module frontRun, List.append_assoc]

end Load

/-- The header of a file of two declarations. -/
def FileRecord.pair : FileRecord :=
  ⟨"a.kt", "", [⟨1000, false⟩, ⟨1001, false⟩]⟩

/-- The header of a file of the same declarations, the other way round. -/
def FileRecord.reversed : FileRecord :=
  ⟨"b.kt", "p", [⟨1001, false⟩, ⟨1000, false⟩]⟩

/-- The header of a file of which the second declaration is missing. -/
def FileRecord.broken : FileRecord :=
  ⟨"c.kt", "p", [⟨1001, false⟩, ⟨1002, false⟩, ⟨1000, false⟩]⟩

namespace Load

/-- A source of two declarations. -/
def greetings : Source := fun id =>
  if id = 1000 then some Record.greeting.write
  else if id = 1001 then some Record.alias.write
  else none

/-- Two files are loaded, the last declaration behind all others.  Where the second declaration
of the second file is missing, those before it are loaded and what follows is not asked for. -/
theorem loads_in_order_twoFiles :
    (∃ loaded after loadedFile tree front before bytes record session,
      module greetings ⟨"<main>", [.pair, .reversed]⟩ ⟨⟨"", .empty, [], []⟩, {}⟩
        { session := .initial } = .ok loaded after ∧
      after.asked = [1000, 1001, 1001, 1000] ∧ loaded.files[1]? = some loadedFile ∧
      loadedFile.name = "b.kt" ∧ loadedFile.package = "p" ∧
      loadedFile.declarations[1]? = some tree ∧
      module greetings (ModuleRecord.upTo ⟨"<main>", [.pair, .reversed]⟩ 1 1)
        ⟨⟨"", .empty, [], []⟩, {}⟩ { session := .initial } = .ok front before ∧
      greetings 1000 = some bytes ∧ Record.ofBytes .declaration bytes = .ok record ∧
      Decode.buildDeclaration record (.file "b.kt") ⟨⟨"", .empty, [], []⟩, {}⟩ before.session =
        .ok tree session) ∧
    (∃ error after,
      module greetings ⟨"<main>", [.pair, .broken]⟩ ⟨⟨"", .empty, [], []⟩, {}⟩
        { session := .initial } = .error error after ∧
      after.asked = [1000, 1001, 1001, 1002] ∧
      (∃ front middle, module greetings ⟨"<main>", [.pair]⟩ ⟨⟨"", .empty, [], []⟩, {}⟩
          { session := .initial } = .ok front middle ∧
        module greetings ⟨"<main>", [.broken]⟩ ⟨⟨"", .empty, [], []⟩, {}⟩ middle =
          .error error after) ∧
      ∃ place index front before, ∃ id : UniqueId,
        (ModuleRecord.upTo ⟨"<main>", [.pair, .broken]⟩ place index).ids ++ [id.index] =
          [1000, 1001, 1001, 1002] ∧
        module greetings (ModuleRecord.upTo ⟨"<main>", [.pair, .broken]⟩ place index)
          ⟨⟨"", .empty, [], []⟩, {}⟩ { session := .initial } = .ok front before) ∧
    moduleOfBytes greetings (Bytes.write (ModuleRecord.mk "<main>" [.pair, .broken]) ++ [255]) =
      module greetings ⟨"<main>", [.pair, .broken]⟩ := by
  have loads := loads_in_order ⟨⟨"", .empty, [], []⟩, {}⟩ greetings
  refine ⟨?loaded, ?failed, loads.2.2.2.2 ⟨"<main>", [.pair, .broken]⟩ [255] (by decide +kernel)⟩
  case loaded =>
    have evaluated :
        let answer := (Session.start ⟨"", .empty, [], []⟩ {}).load
          (module greetings ⟨"<main>", [.pair, .reversed]⟩)
        answer.1.isOk = true ∧ answer.2.1 = [1000, 1001, 1001, 1000] := by
      decide +kernel
    unfold Session.load at evaluated
    split at evaluated
    · rename_i loaded after run
      obtain ⟨-, files, -, inFile⟩ := loads.2.2.1 _ _ _ _ run
      obtain ⟨loadedFile, given⟩ : ∃ file, loaded.files[1]? = some file :=
        ⟨_, List.getElem?_eq_getElem (files ▸ Nat.lt_succ_self 1)⟩
      obtain ⟨named, packaged, count, trees⟩ := inFile 1 _ loadedFile rfl given
      obtain ⟨tree, there⟩ : ∃ tree, loadedFile.declarations[1]? = some tree :=
        ⟨_, List.getElem?_eq_getElem (count ▸ Nat.lt_succ_self 1)⟩
      obtain ⟨front, before, bytes, record, session, linked⟩ := trees 1 _ tree rfl there
      exact ⟨loaded, after, loadedFile, tree, front, before, bytes, record, session, run,
        evaluated.2, given, named, packaged, there, linked⟩
    · cases evaluated.1
  case failed =>
    have evaluated :
        let answer := (Session.start ⟨"", .empty, [], []⟩ {}).load
          (module greetings ⟨"<main>", [.pair, .broken]⟩)
        answer.1.isOk = false ∧ answer.2.1 = [1000, 1001, 1001, 1002] := by
      decide +kernel
    unfold Session.load at evaluated
    split at evaluated
    · cases evaluated.1
    · rename_i error after run
      have asksFor : after.asked = [1000, 1001, 1001, 1002] := evaluated.2
      obtain ⟨place, _, index, id, front, before, -, -, frontRun, -, asked, -⟩ :=
        loads.2.2.2.1 _ _ _ _ run
      refine ⟨error, after, run, asksFor, ?_, place, index, front, before, id,
        asked.symm.trans asksFor, frontRun⟩
      rcases (loads.1 "<main>" "<main>" "<main>" [_] [_]).error_iff.mp run with first | split
      · -- The first file mentions only two declarations.
        obtain ⟨_, _, _, _, _, _, -, -, -, -, askedFirst, within⟩ := loads.2.2.2.1 _ _ _ _ first
        have few : after.asked.length ≤ 2 := askedFirst ▸ within.length_le
        rw [asksFor] at few
        exact absurd few (by decide)
      · exact split

end Load

end IrLink

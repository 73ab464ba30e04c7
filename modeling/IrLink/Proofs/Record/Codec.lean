import IrLink.Proofs.Record.Parts

/-!
# Layers of records and their bytes

One layer of a record is read from the bytes that are written for it, and from
no others, if its parts are.  The rules of readers run through every layer in
the order of its parts.
-/

namespace IrLink

open Bytes Reader

/-! ## Categories without a count -/

/-- Whether records of a category are written without a count in front of them. -/
def Category.isPlain : Category → Bool
  | .list _ => false
  | .option c => c.isPlain
  | _ => true

/-- Whether lists stand at most at the outside, as they do in parts of records. -/
def Category.isFlat : Category → Bool
  | .list c => c.isPlain
  | c => c.isPlain

theorem Category.isFlat_of_isPlain {c : Category} (plain : c.isPlain = true) :
    c.isFlat = true := by
  cases c with
  | list c => cases plain
  | _ => exact plain

namespace Record

/-- The bytes that stand for a record where it is a part of another.  In front of
the items of a list stands their number. -/
def encoded : {c : Category} → Record c → List UInt8
  | .list _, items => word 8 items.itemCount ++ items.write
  | _, r => r.write

theorem encoded_of_isPlain {c : Category} (plain : c.isPlain = true) (r : Record c) :
    r.encoded = r.write := by
  cases c with
  | list c => cases plain
  | _ => rfl

/-- No record stands for itself without a byte. -/
theorem length_encoded_pos {c : Category} (r : Record c) : 0 < r.encoded.length := by
  induction r with
  | none | unsetType | unsetArgument | starArgument | unsetOperation | unsetElement
  | unsetDeclarator | typeAlias => exact Nat.zero_lt_succ _
  | callNode | fieldAccessNode | expressionNode | unsetStatement | blockBody
  | branchStatement | catchStatement | declarationStatement | expressionStatement
  | syntheticBody | declarationNode | functionNode | fieldNode | valueParameterNode
  | typeParameterNode => exact length_append_pos (LawfulCoded.length_write_pos _) _
  | accessNode _ _ _ _ receiver => exact length_append_pos receiver _
  | signatureNode _ _ _ _ _ _ returnType => exact length_append_pos returnType _
  | asBranch _ statement | asCatch _ statement | asBody _ statement => exact statement
  | asAccessor _ function => exact function
  | asBackingField _ field => exact field
  | loop kind => cases kind <;> exact length_word_append_pos _ _ _
  | _ => exact length_word_append_pos _ _ _

theorem itemCount_eq {c : Category} (items : Record (.list c)) :
    items.itemCount = items.toList.length := by
  match items with
  | nil => simp [itemCount, toList]
  | cons _ tail => simp [itemCount, toList, itemCount_eq tail]

theorem write_eq_flatMap {c : Category} (items : Record (.list c)) :
    items.write = items.toList.flatMap Record.write := by
  match items with
  | nil =>
    rw [toList]
    rfl
  | cons head tail =>
    rw [toList, List.flatMap_cons, ← write_eq_flatMap tail]
    rfl

theorem ofList_toList {c : Category} (items : Record (.list c)) :
    ofList items.toList = items := by
  match items with
  | nil => simp [ofList, toList]
  | cons _ tail => simp [ofList, toList, ofList_toList tail]

theorem itemCount_le_length {c : Category} (plain : c.isPlain = true)
    (items : Record (.list c)) : items.itemCount ≤ items.write.length := by
  match items with
  | nil => exact Nat.le_refl 0
  | cons head tail =>
    have some := head.length_encoded_pos
    have tailLe := itemCount_le_length plain tail
    rw [encoded_of_isPlain plain] at some
    change tail.itemCount + 1 ≤ (head.write ++ tail.write).length
    rw [List.length_append]
    omega

/-! ## From records to bytes and back -/

/-- Every part that is shorter than `n` bytes is read from its bytes. -/
def PartsTaken (n : Nat) (part : Readers) : Prop :=
  ∀ c : Category, c.isFlat = true → ∀ r : Record c, Takes n (part c) r.encoded r

section Takes

variable {n : Nat} {part : Readers} {c : Category}

theorem PartsTaken.one (parts : PartsTaken n part) (r : Record c)
    (plain : c.isPlain = true) : Takes n (part c) r.write r :=
  (parts c (Category.isFlat_of_isPlain plain) r).spelled (encoded_of_isPlain plain r)

/-- A list is read from the number and the bytes of its items. -/
theorem PartsTaken.list (parts : PartsTaken n part) (items : Record (.list c))
    (plain : c.isPlain = true) :
    Takes n (part (.list c)) (word 8 items.itemCount ++ items.write) items :=
  parts (.list c) plain items

theorem PartsTaken.items (parts : PartsTaken n part) {β : Type} (items : Record (.list c))
    (plain : c.isPlain = true) {next : Record (.list c) → Reader β} {back : List UInt8}
    {b : β} (takesNext : Takes n (next items) back b) :
    Takes n (part (.list c) >>= next) (word 8 items.itemCount ++ (items.write ++ back)) b :=
  ((parts.list items plain).bind takesNext).spelled (List.append_assoc _ _ _)

theorem takes_list (parts : PartsTaken n part) (plain : c.isPlain = true)
    (items : Record (.list c)) :
    Takes (n + 1) (readLayer part (.list c)) items.encoded items := by
  refine Takes.of_fits fun fits => ?_
  have small : items.itemCount < 256 ^ 8 := by
    have le := itemCount_le_length plain items
    rw [encoded, List.length_append] at fits
    exact Nat.lt_of_le_of_lt (Nat.le_trans le (Nat.le_add_left _ _)) fits
  have taken : Takes n (times (part c) items.itemCount) items.write items.toList := by
    rw [itemCount_eq, write_eq_flatMap]
    exact takes_times fun r _ => parts.one r plain
  have whole := taken.last ofList
  rw [ofList_toList] at whole
  exact (takes_number small).after (by simp) whole

theorem takes_option (parts : PartsTaken n part) (plain : c.isPlain = true)
    (r : Record (.option c)) : Takes (n + 1) (readLayer part (.option c)) r.write r := by
  match r with
  | none =>
    have number : Takes (n + 1) (Reader.number 1) (word 1 0) 0 := takes_number (by decide)
    exact (number.bind (.pure none)).spelled (List.append_nil _)
  | some value =>
    have number : Takes (n + 1) (Reader.number 1) (word 1 1) 1 := takes_number (by decide)
    exact number.after (by simp) ((parts.one value plain).last some)

theorem takes_statement (parts : PartsTaken n part) (r : Record .statement) :
    Takes (n + 1) (readStatement part) r.write r := by
  cases r
  all_goals
    refine (takes (n + 1) _).after (LawfulCoded.length_write_pos _) ?_
    refine Takes.mono ?_ (Nat.le_succ n)
  case unsetStatement => exact takes_variant rfl (by decide) (.pure _)
  case blockBody => exact takes_variant rfl (by decide) ((parts.list _ rfl).last _)
  case branchStatement | catchStatement =>
    exact takes_variant rfl (by decide) ((parts.one _ rfl).bind ((parts.one _ rfl).last _))
  case declarationStatement | expressionStatement =>
    exact takes_variant rfl (by decide) ((parts.one _ rfl).last _)
  case syntheticBody => exact takes_variant rfl (by decide) ((takes n _).last _)

theorem takes_function (parts : PartsTaken n part) (r : Record .function) :
    Takes (n + 1) (readFunction part) r.write r := by
  cases r with
  | functionNode symbol =>
    exact (takes (n + 1) symbol).after (LawfulCoded.length_write_pos symbol) <|
      (takes n _).bind <| (parts.one _ rfl).bind <| (takes n _).bind <| (takes n _).bind <|
      (takes n _).bind <| (takes n _).last _

theorem takes_field (parts : PartsTaken n part) (r : Record .field) :
    Takes (n + 1) (readField part) r.write r := by
  cases r with
  | fieldNode symbol =>
    exact (takes (n + 1) symbol).after (LawfulCoded.length_write_pos symbol) <|
      (takes n _).bind <| (parts.one _ rfl).bind <| (takes n _).bind <| (takes n _).bind <|
      (parts.one _ rfl).last _

/-- A record is read from its bytes if its parts are.  What stands in front of
the parts takes bytes, so each part is shorter than the record. -/
theorem takes_layer (parts : PartsTaken n part) (flat : c.isFlat = true) (r : Record c) :
    Takes (n + 1) (readLayer part c) r.encoded r := by
  cases r
  case nil | cons => exact takes_list parts flat _
  case none c => exact takes_option (c := c) parts flat _
  case some c _ => exact takes_option (c := c) parts flat _
  case asBranch statement | asCatch statement | asBody statement =>
    exact (takes_statement parts statement).last _
  case unsetStatement | blockBody | branchStatement | catchStatement | declarationStatement
      | expressionStatement | syntheticBody => exact takes_statement parts _
  case functionNode => exact takes_function parts _
  case asAccessor function => exact (takes_function parts function).last _
  case fieldNode => exact takes_field parts _
  case asBackingField field => exact (takes_field parts field).last _
  case accessNode receiver extension _ _ =>
    exact (parts.one receiver rfl).both receiver.length_encoded_pos
      ((parts.one extension rfl).bind <| parts.items _ rfl <| (parts.list _ rfl).last _)
      (length_append_pos extension.length_encoded_pos _)
  case signatureNode returnType body _ _ _ _ =>
    exact (parts.one returnType rfl).both returnType.length_encoded_pos
      ((parts.one body rfl).bind <| parts.items _ rfl <| (parts.one _ rfl).bind <|
        (parts.one _ rfl).bind <| (parts.list _ rfl).last _)
      (length_append_pos body.length_encoded_pos _)
  case callNode symbol _ _ _ =>
    exact (takes (n + 1) symbol).after (LawfulCoded.length_write_pos symbol) <|
      (takes n _).bind <| (takes n _).bind <| (parts.one _ rfl).last _
  case fieldAccessNode symbol _ _ =>
    exact (takes (n + 1) symbol).after (LawfulCoded.length_write_pos symbol) <|
      (takes n _).bind <| (parts.one _ rfl).last _
  case expressionNode range _ _ =>
    exact (takes (n + 1) range).after (LawfulCoded.length_write_pos range) <|
      (parts.one _ rfl).bind <| (parts.one _ rfl).last _
  case declarationNode range _ _ _ _ =>
    exact (takes (n + 1) range).after (LawfulCoded.length_write_pos range) <|
      (takes n _).bind <| parts.items _ rfl <| (takes n _).bind <| (parts.one _ rfl).last _
  case valueParameterNode symbol _ _ _ _ _ _ _ =>
    exact (takes (n + 1) symbol).after (LawfulCoded.length_write_pos symbol) <|
      (takes n _).bind <| (takes n _).bind <| (parts.one _ rfl).bind <| (parts.one _ rfl).bind <|
      (takes n _).bind <| (takes n _).bind <| (parts.one _ rfl).last _
  case typeParameterNode symbol _ _ _ _ =>
    exact (takes (n + 1) symbol).after (LawfulCoded.length_write_pos symbol) <|
      (takes n _).bind <| (takes n _).bind <| (takes n _).bind <| (parts.list _ rfl).last _
  case' loop kind _ _ _ _ => cases kind
  -- All other records begin with the number of a variant.
  all_goals
    refine takes_variant rfl (by decide) ?_
    repeat
      first
      | with_reducible exact Takes.pure _
      | with_reducible refine Takes.last ?_ _
        first
        | exact takes n _
        | exact parts.one _ rfl
        | exact parts.list _ rfl
      | refine (takes n _).bind ?_
      | refine (parts.one _ rfl).bind ?_
      | refine parts.items _ rfl ?_

/-- Every record of fewer than `depth` bytes is read within that depth. -/
theorem takes_nested (depth : Nat) : PartsTaken depth (readNested depth) := by
  induction depth with
  | zero =>
    intro c flat r bound
    exact absurd bound (Nat.not_lt_zero _)
  | succ depth inductionHypothesis =>
    intro c flat r
    exact takes_layer inductionHypothesis flat r

/-- A record is read back from its bytes. -/
theorem takes_read (plain : c.isPlain = true) (r : Record c) :
    Takes n (Record.read c) r.write r := by
  intro _ fits rest
  have takes := (takes_nested (2 * (r.write ++ rest).length + 2)).one r plain
  exact takes (by rw [List.length_append]; omega) fits rest

theorem ofBytes_write_append (plain : c.isPlain = true) (r : Record c)
    (fits : r.write.length < UInt64.size) (rest : List UInt8) :
    ofBytes c (r.write ++ rest) = .ok r := by
  have taken := takes_read (n := r.write.length + 1) plain r
  exact taken.run' (Nat.lt_add_one _) fits rest

end Takes

/-! ## From bytes to records and back -/

/-- Every part is read from no other bytes than its own. -/
def PartsExact (part : Readers) : Prop :=
  ∀ c : Category, c.isFlat = true → Exact (part c) Record.encoded

section Exact

variable {part : Readers} {c : Category}

theorem PartsExact.one (parts : PartsExact part) (plain : c.isPlain = true) :
    Exact (part c) Record.write :=
  (parts c (Category.isFlat_of_isPlain plain)).imp fun r _ same =>
    same.trans (encoded_of_isPlain plain r)

/-- A list is read from the number and the bytes of its items only. -/
theorem PartsExact.list (parts : PartsExact part) (plain : c.isPlain = true) :
    Exact (part (.list c)) fun items => word 8 items.itemCount ++ items.write :=
  parts (.list c) plain

theorem PartsExact.items (parts : PartsExact part) (plain : c.isPlain = true) {β : Type}
    {next : Record (.list c) → Reader β} {spelling : β → List UInt8 → Prop}
    (spellsNext : ∀ items : Record (.list c), Spells (next items) fun b back =>
      spelling b (word 8 items.itemCount ++ (items.write ++ back))) :
    Spells (part (.list c) >>= next) spelling := by
  refine (parts.list plain).bind fun items => (spellsNext items).imp fun b back holds => ?_
  rwa [List.append_assoc]

theorem exact_list (parts : PartsExact part) (plain : c.isPlain = true) :
    Exact (readLayer part (.list c)) encoded := by
  refine (exact_number 8).bind fun count => (spells_times (parts.one plain) count).bind ?_
  rintro items back ⟨rfl, rfl⟩
  refine Spells.pure ?_
  rw [encoded, itemCount_eq, write_eq_flatMap, toList_ofList, List.append_nil]

theorem exact_option (parts : PartsExact part) (plain : c.isPlain = true) :
    Exact (readLayer part (.option c)) Record.write := by
  refine (exact_number 1).bind fun found => ?_
  split
  · exact Spells.pure rfl
  · exact (parts.one plain).last fun _ => rfl
  · exact Spells.throw

theorem exact_statement (parts : PartsExact part) : Exact (readStatement part) Record.write := by
  refine exact.bind fun range => spells_variant ?_
  exact ⟨.pure rfl, (parts.list rfl).last fun _ => rfl,
    (parts.one rfl).bind fun _ => (parts.one rfl).last fun _ => rfl,
    (parts.one rfl).bind fun _ => (parts.one rfl).last fun _ => rfl,
    (parts.one rfl).last fun _ => rfl, (parts.one rfl).last fun _ => rfl,
    exact.last fun _ => rfl, trivial⟩

theorem exact_function (parts : PartsExact part) : Exact (readFunction part) Record.write :=
  exact.bind fun _ => exact.bind fun _ => (parts.one rfl).bind fun _ => exact.bind fun _ =>
    exact.bind fun _ => exact.bind fun _ => exact.last fun _ => rfl

theorem exact_field (parts : PartsExact part) : Exact (readField part) Record.write :=
  exact.bind fun _ => exact.bind fun _ => (parts.one rfl).bind fun _ => exact.bind fun _ =>
    exact.bind fun _ => (parts.one rfl).last fun _ => rfl

/-- A record is read from no other bytes than its own if its parts are. -/
theorem exact_layer (parts : PartsExact part) (flat : c.isFlat = true) :
    Exact (readLayer part c) encoded := by
  cases c
  case list => exact exact_list parts flat
  case option => exact exact_option parts flat
  case statement => exact exact_statement parts
  case branch | catchClause | body =>
    exact (exact_statement parts).last fun _ => rfl
  case function => exact exact_function parts
  case accessor =>
    exact (exact_function parts).last fun _ => rfl
  case field => exact exact_field parts
  case backingField =>
    exact (exact_field parts).last fun _ => rfl
  -- The parts follow one another, behind the number of a variant or without one.
  all_goals
    repeat
      first
      | exact Spells.pure rfl
      | with_reducible apply Exact.last
        · first | exact exact | exact parts.one rfl | exact parts.list rfl
        · exact fun _ => rfl
      | refine exact.bind fun _ => ?_
      | refine (parts.one rfl).bind fun _ => ?_
      | refine parts.items rfl fun _ => ?_
      | refine spells_variant ?_
      | refine And.intro ?_ ?_
      | exact trivial

/-- Within any depth, records are read from no other bytes than their own. -/
theorem exact_nested (depth : Nat) : PartsExact (readNested depth) := by
  induction depth with
  | zero =>
    intro c flat
    exact Spells.throw
  | succ depth inductionHypothesis =>
    intro c flat
    exact exact_layer inductionHypothesis flat

/-- A record is read from no other bytes than its own. -/
theorem exact_read (plain : c.isPlain = true) : Exact (Record.read c) Record.write := by
  intro input r rest read
  exact (exact_nested (2 * input.length + 2)).one plain read

end Exact

end Record

/-! ## The byte form as a code -/

theorem ModuleRecord.ofBytes_write_append (module : ModuleRecord)
    (fits : (write module).length < UInt64.size) (rest : List UInt8) :
    ModuleRecord.ofBytes (write module ++ rest) = .ok module := by
  have taken := takes ((write module).length + 1) module
  have bound : (write module).length < (write module).length + 1 := Nat.lt_add_one _
  exact taken.run' bound fits rest

/-- A code from whose words, with anything behind them, their values are read back
is free of prefixes: no word begins with the word of another value. -/
theorem eq_of_prefix {α ε : Type} {decode : List UInt8 → Except ε α} {a b : α}
    {front whole : List UInt8} (frontRead : ∀ rest, decode (front ++ rest) = .ok a)
    (wholeRead : ∀ rest, decode (whole ++ rest) = .ok b) (begins : front <+: whole) : a = b := by
  rcases begins with ⟨rest, rfl⟩
  have same := frontRead (rest ++ [])
  rw [← List.append_assoc, wholeRead []] at same
  exact (Except.ok.inj same).symm

/-- Declarations and headers of modules are read back from their bytes, whatever
follows these.  So different values have different bytes, and the bytes of neither
begin with those of the other.

The length of a list or text is written as a word of eight bytes.  Sequences in
memory are never longer than such a word can say, so the bound on the written bytes
holds of everything that is written. -/
theorem bytes_roundTrip :
    (∀ (r : Record .declaration) (rest : List UInt8), r.write.length < UInt64.size →
      Record.ofBytes .declaration (r.write ++ rest) = .ok r) ∧
    (∀ (module : ModuleRecord) (rest : List UInt8), (write module).length < UInt64.size →
      ModuleRecord.ofBytes (write module ++ rest) = .ok module) ∧
    (∀ r s : Record .declaration, s.write.length < UInt64.size → r.write <+: s.write →
      r = s) ∧
    (∀ module other : ModuleRecord, (write other).length < UInt64.size →
      write module <+: write other → module = other) := by
  refine ⟨fun r rest fits => r.ofBytes_write_append rfl fits rest,
    fun module rest fits => module.ofBytes_write_append fits rest, ?_, ?_⟩
  · intro r s fits begins
    have shorter := Nat.lt_of_le_of_lt begins.length_le fits
    exact eq_of_prefix (r.ofBytes_write_append rfl shorter) (s.ofBytes_write_append rfl fits)
      begins
  · intro module other fits begins
    have shorter := Nat.lt_of_le_of_lt begins.length_le fits
    exact eq_of_prefix (module.ofBytes_write_append shorter) (other.ofBytes_write_append fits)
      begins

/-- A variable that begins with a text. -/
def Record.greeting : Record .declaration :=
  .declarationNode ⟨0, 12⟩ "DEFINED" .nil "a.kt" <|
    .variableDeclarator ⟨.symbol .localVariable, ⟨1000, true⟩, .none⟩ "x"
      (.dynamicType .nil .invariant) ⟨false, false, false⟩ <| .some <|
        .expressionNode ⟨6, 12⟩ (.dynamicType .nil .invariant) (.constant (.string "für"))

/-- A declaration whose bytes begin as those of `Record.greeting` do. -/
def Record.alias : Record .declaration :=
  .declarationNode ⟨0, 12⟩ "DEFINED" .nil "a.kt" .typeAlias

/-- The header of a module of one file. -/
def ModuleRecord.single : ModuleRecord :=
  ⟨"<main>", [⟨"a.kt", "", [⟨1000, false⟩]⟩]⟩

theorem bytes_roundTrip_greeting :
    Record.ofBytes .declaration (Record.greeting.write ++ [255]) = .ok Record.greeting ∧
      ModuleRecord.ofBytes (write ModuleRecord.single ++ [255]) = .ok ModuleRecord.single ∧
      ¬ Record.alias.write <+: Record.greeting.write ∧
      ¬ write (ModuleRecord.mk "<main>" []) <+: write ModuleRecord.single := by
  have fits : Record.greeting.write.length < UInt64.size := by decide +kernel
  have moduleFits : (write ModuleRecord.single).length < UInt64.size := by decide +kernel
  refine ⟨bytes_roundTrip.1 _ [255] fits, bytes_roundTrip.2.1 _ [255] moduleFits,
    fun begins => ?_, fun begins => ?_⟩
  · cases bytes_roundTrip.2.2.1 _ _ fits begins
  · cases bytes_roundTrip.2.2.2 _ _ moduleFits begins

/-- A record whose bytes fit a word is read from what begins with them, and from nothing
else. -/
theorem Record.ofBytes_eq_ok_iff {c : Category} (plain : c.isPlain = true) {r : Record c}
    (fits : r.write.length < UInt64.size) {bytes : List UInt8} :
    Record.ofBytes c bytes = .ok r ↔ ∃ rest, bytes = r.write ++ rest := by
  constructor
  · exact fun read => Spells.run' (Record.exact_read plain) read
  · rintro ⟨rest, rfl⟩
    exact r.ofBytes_write_append plain fits rest

theorem ModuleRecord.ofBytes_eq_ok_iff {module : ModuleRecord}
    (fits : (write module).length < UInt64.size) {bytes : List UInt8} :
    ModuleRecord.ofBytes bytes = .ok module ↔ ∃ rest, bytes = write module ++ rest := by
  constructor
  · exact fun read => Spells.run' exact read
  · rintro ⟨rest, rfl⟩
    exact module.ofBytes_write_append fits rest

/-- Bytes from which a declaration or the header of a module is read begin with
the bytes that are written for it, so it has no other byte form.  Where these fit
a word, it is read from all that begins with them. -/
theorem bytes_canonical :
    (∀ (bytes : List UInt8) (r : Record .declaration),
      Record.ofBytes .declaration bytes = .ok r → ∃ rest, bytes = r.write ++ rest) ∧
    (∀ (bytes : List UInt8) (module : ModuleRecord),
      ModuleRecord.ofBytes bytes = .ok module → ∃ rest, bytes = write module ++ rest) ∧
    (∀ (bytes : List UInt8) (r : Record .declaration), r.write.length < UInt64.size →
      (Record.ofBytes .declaration bytes = .ok r ↔ ∃ rest, bytes = r.write ++ rest)) ∧
    ∀ (bytes : List UInt8) (module : ModuleRecord), (write module).length < UInt64.size →
      (ModuleRecord.ofBytes bytes = .ok module ↔ ∃ rest, bytes = write module ++ rest) :=
  ⟨fun _ _ read => Spells.run' (Record.exact_read rfl) read,
    fun _ _ read => Spells.run' exact read, fun _ _ fits => Record.ofBytes_eq_ok_iff rfl fits,
    fun _ _ fits => ModuleRecord.ofBytes_eq_ok_iff fits⟩

/-- Both are read with a byte behind them, and the variable is not read from the bytes of
another declaration. -/
theorem bytes_canonical_greeting :
    (Record.ofBytes .declaration (Record.greeting.write ++ [255]) = .ok Record.greeting ∧
      ∃ rest, Record.greeting.write ++ [255] = Record.greeting.write ++ rest) ∧
    (ModuleRecord.ofBytes (write ModuleRecord.single ++ [255]) = .ok ModuleRecord.single ∧
      ∃ rest, write ModuleRecord.single ++ [255] = write ModuleRecord.single ++ rest) ∧
    Record.ofBytes .declaration Record.alias.write ≠ .ok Record.greeting := by
  have fits : Record.greeting.write.length < UInt64.size := by decide +kernel
  have moduleFits : (write ModuleRecord.single).length < UInt64.size := by decide +kernel
  obtain ⟨declaration, header, declarationIff, headerIff⟩ := bytes_canonical
  have read := (declarationIff (Record.greeting.write ++ [255]) _ fits).mpr ⟨[255], rfl⟩
  have moduleRead := (headerIff (write ModuleRecord.single ++ [255]) _ moduleFits).mpr ⟨[255], rfl⟩
  refine ⟨⟨read, declaration _ _ read⟩, ⟨moduleRead, header _ _ moduleRead⟩, fun aliasRead => ?_⟩
  obtain ⟨rest, same⟩ := declaration _ _ aliasRead
  have shorter : Record.alias.write.length < Record.greeting.write.length := by decide +kernel
  rw [same, List.length_append] at shorter
  omega

end IrLink

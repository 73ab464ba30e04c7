import IrLink.Record.Bytes
import IrLink.Proofs.Bytes.Coded

/-!
# Lawful parts of records

The byte forms of all data that records hold beside other records are lawful,
and so are those of the headers of files and modules.
-/

namespace IrLink

open Bytes

/-- Where the first part of a value takes bytes, so does the value. -/
theorem length_append_pos {front : List UInt8} (some : 0 < front.length) (back : List UInt8) :
    0 < (front ++ back).length := by
  rw [List.length_append]
  omega

instance : LawfulCoded Range where
  length_write_pos range := length_append_pos (LawfulCoded.length_write_pos range.start) _
  takes n _ := (takes n _).bind <| (takes n _).last _
  exact := exact.bind fun _ => exact.last fun _ => rfl

instance : LawfulCoded UniqueId where
  length_write_pos id := length_append_pos (LawfulCoded.length_write_pos id.index) _
  takes n _ := (takes n _).bind <| (takes n _).last _
  exact := exact.bind fun _ => exact.last fun _ => rfl

instance : LawfulCoded DescriptorReference where
  length_write_pos r := length_append_pos (LawfulCoded.length_write_pos r.package) _
  takes n _ := (takes n _).bind <| (takes n _).bind <| (takes n _).bind <|
    (takes n _).bind <| (takes n _).bind <| (takes n _).bind <| (takes n _).bind <|
    (takes n _).bind <| (takes n _).bind <| (takes n _).last _
  exact := exact.bind fun _ => exact.bind fun _ => exact.bind fun _ =>
    exact.bind fun _ => exact.bind fun _ => exact.bind fun _ => exact.bind fun _ =>
    exact.bind fun _ => exact.bind fun _ => exact.last fun _ => rfl

instance : LawfulCoded SymbolRecord where
  length_write_pos symbol := length_append_pos (LawfulCoded.length_write_pos symbol.kind) _
  takes n _ := (takes n _).bind <| (takes n _).bind <| (takes n _).last _
  exact := exact.bind fun _ => exact.bind fun _ => exact.last fun _ => rfl

instance : LawfulCoded FunctionHeader where
  length_write_pos header := length_append_pos (LawfulCoded.length_write_pos header.name) _
  takes n _ := (takes n _).bind <| (takes n _).bind <| (takes n _).bind <|
    (takes n _).last _
  exact := exact.bind fun _ => exact.bind fun _ => exact.bind fun _ =>
    exact.last fun _ => rfl

instance : LawfulCoded ClassFlags where
  length_write_pos flags := length_append_pos (LawfulCoded.length_write_pos flags.isCompanion) _
  takes n _ := (takes n _).bind <| (takes n _).bind <| (takes n _).bind <|
    (takes n _).bind <| (takes n _).last _
  exact := exact.bind fun _ => exact.bind fun _ => exact.bind fun _ =>
    exact.bind fun _ => exact.last fun _ => rfl

instance : LawfulCoded FieldFlags where
  length_write_pos flags := length_append_pos (LawfulCoded.length_write_pos flags.isFinal) _
  takes n _ := (takes n _).bind <| (takes n _).bind <| (takes n _).last _
  exact := exact.bind fun _ => exact.bind fun _ => exact.last fun _ => rfl

instance : LawfulCoded PropertyFlags where
  length_write_pos flags := length_append_pos (LawfulCoded.length_write_pos flags.isVar) _
  takes n _ := (takes n _).bind <| (takes n _).bind <| (takes n _).bind <|
    (takes n _).bind <| (takes n _).last _
  exact := exact.bind fun _ => exact.bind fun _ => exact.bind fun _ =>
    exact.bind fun _ => exact.last fun _ => rfl

instance : LawfulCoded VariableFlags where
  length_write_pos flags := length_append_pos (LawfulCoded.length_write_pos flags.isVar) _
  takes n _ := (takes n _).bind <| (takes n _).bind <| (takes n _).last _
  exact := exact.bind fun _ => exact.bind fun _ => exact.last fun _ => rfl

instance : LawfulCoded RecordedConstant where
  length_write_pos value := by
    cases value
    all_goals exact length_word_append_pos 3 _ _
  takes n value := by
    refine Takes.mono ?_ (Nat.le_succ n)
    cases value with
    | unset | null => exact takes_variant_pure rfl (by decide)
    | _ => exact takes_variant rfl (by decide) ((takes n _).last _)
  exact := spells_variant ⟨.pure rfl, .pure rfl, exact.last fun _ => rfl,
    exact.last fun _ => rfl, exact.last fun _ => rfl,
    exact.last fun _ => rfl, exact.last fun _ => rfl,
    exact.last fun _ => rfl, exact.last fun _ => rfl,
    exact.last fun _ => rfl, exact.last fun _ => rfl, trivial⟩

instance : LawfulCoded FileRecord where
  length_write_pos file := length_append_pos (LawfulCoded.length_write_pos file.name) _
  takes n _ := (takes n _).bind <| (takes n _).bind <| (takes n _).last _
  exact := exact.bind fun _ => exact.bind fun _ => exact.last fun _ => rfl

instance : LawfulCoded ModuleRecord where
  length_write_pos module := length_append_pos (LawfulCoded.length_write_pos module.name) _
  takes n _ := (takes n _).bind <| (takes n _).last _
  exact := exact.bind fun _ => exact.last fun _ => rfl

end IrLink

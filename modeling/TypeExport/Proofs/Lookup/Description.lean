import TypeExport.Config.Review
import TypeExport.Proofs.Source.EnumText

/-!
# Descriptions of lookup enums

The class of a lookup enum is described by a literal that names its table.  The table stands in it
as it is, so the literal ends where its line does only for names that stand for themselves between
three double quotes.  Names that are quoted for the database end in a quote and do not.
-/

namespace TypeExport.EnumSource

open SourceLine

/-- What the class says about itself. -/
def description (source : EnumSource String) : String :=
  "Auto-generated enum from database table: " ++ source.table

/-- The text of a module up to the quotes of the description. -/
def textBefore (source : EnumSource String) (rows : List Row) : List Char :=
  ((source.moduleHead (baseOf rows)).take 10).flatMap (fun line => line.toList ++ ['\n']) ++
    "    ".toList

/-- The text of a module behind the line of the description: the members, each on its line. -/
def textBehind (rows : List Row) : List Char :=
  '\n' :: ((Name.uniqueMembers (rows.map (·.2))).zip rows).flatMap fun (name, key, _) =>
    (memberLine (isIntegral rows) name key).toList ++ ['\n']

/-- The description is closed by the quotes at the end of its line, and says what it should. -/
structure IsDescribed (source : EnumSource String) (rows : List Row) : Prop where
  oneLine : ∀ c ∈ source.table.toList, c ≠ '\n' ∧ c ≠ '\r' ∧ c ≠ '\x00'
  literal : TextLiteral.longRest? '"' (source.description.toList ++
    '"' :: '"' :: '"' :: '\n' :: textBehind rows) = some (source.description, '\n' :: textBehind rows)

variable {source : EnumSource String} {rows : List Row}

/-- The line of the description. -/
theorem toList_descriptionLine (source : EnumSource String) :
    ("    \"\"\"Auto-generated enum from database table: " ++ source.table ++ "\"\"\"").toList =
      "    ".toList ++ '"' :: '"' :: '"' :: (source.description.toList ++ ['"', '"', '"']) := by
  have hopen : "    \"\"\"Auto-generated enum from database table: ".toList =
      "    ".toList ++ '"' :: '"' :: '"' :: "Auto-generated enum from database table: ".toList := rfl
  have hclose : "\"\"\"".toList = ['"', '"', '"'] := rfl
  unfold description
  rw [String.toList_append, String.toList_append, String.toList_append, hopen, hclose]
  simp only [List.append_assoc, List.cons_append]

/-- The description stands between its quotes, behind the text before it. -/
theorem toList_moduleText_eq (source : EnumSource String) (rows : List Row) :
    (source.moduleText rows).toList = source.textBefore rows ++ '"' :: '"' :: '"' ::
      (source.description.toList ++ '"' :: '"' :: '"' :: '\n' :: textBehind rows) := by
  have hhead : source.moduleHead (baseOf rows) = (source.moduleHead (baseOf rows)).take 10 ++
      ["    \"\"\"Auto-generated enum from database table: " ++ source.table ++ "\"\"\"", ""] := rfl
  have hlines : source.moduleLines rows = source.moduleHead (baseOf rows) ++
      ((Name.uniqueMembers (rows.map (·.2))).zip rows).map fun (name, key, _) =>
        memberLine (isIntegral rows) name key := rfl
  have hempty : "".toList = [] := rfl
  unfold moduleText textBefore textBehind
  rw [toList_lines (by simp [moduleLines, moduleHead]), hlines, List.flatMap_append,
    List.flatMap_map]
  generalize ((Name.uniqueMembers (rows.map (·.2))).zip rows).flatMap _ = members
  conv_lhs => rw [hhead]
  rw [List.flatMap_append, List.flatMap_cons, List.flatMap_cons, List.flatMap_nil,
    toList_descriptionLine, hempty]
  simp only [List.append_assoc, List.cons_append, List.nil_append]

/-- What is written in front of the table has no quotes. -/
theorem isVerbatim_description_iff (source : EnumSource String) :
    TextLiteral.IsVerbatim source.description.toList ↔
      TextLiteral.IsVerbatim source.table.toList := by
  have hall : ("Auto-generated enum from database table: ".toList.all
      fun c => decide (c ≠ '"' ∧ c ≠ '\\')) = true := by decide
  unfold description
  rw [String.toList_append]
  exact TextLiteral.isVerbatim_append_iff
    (fun c hc => of_decide_eq_true (List.all_eq_true.1 hall c hc)) _

/-- The class of a source is described exactly when its table has one line and stands for itself
between three double quotes; then the line of the description is one literal, and what is read next
is the members. -/
theorem isDescribed_iff (source : EnumSource String) (rows : List Row) :
    (source.moduleText rows).toList = source.textBefore rows ++ '"' :: '"' :: '"' ::
        (source.description.toList ++ '"' :: '"' :: '"' :: '\n' :: textBehind rows) ∧
      (source.IsDescribed rows ↔ (∀ c ∈ source.table.toList, c ≠ '\n' ∧ c ≠ '\r' ∧ c ≠ '\x00') ∧
        TextLiteral.IsVerbatim source.table.toList) ∧
      (source.IsDescribed rows → ∀ fuel, SourceLine.all (fuel + 1) ("    ".toList ++
          '"' :: '"' :: '"' :: (source.description.toList ++ '"' :: '"' :: '"' :: '\n' ::
            textBehind rows)) =
        (SourceLine.all fuel (textBehind rows)).map fun lines =>
          { indent := 4, tokens := [.literal (.text source.description)] } :: lines) := by
  have hliteral := TextLiteral.longRest?_eq_iff source.description.toList ('\n' :: textBehind rows)
  rw [String.ofList_toList, isVerbatim_description_iff] at hliteral
  refine ⟨toList_moduleText_eq source rows, ?_, ?_⟩
  · constructor
    · exact fun h => ⟨h.oneLine, hliteral.1 h.literal⟩
    · exact fun h => ⟨h.1, hliteral.2 h.2⟩
  · intro h fuel
    have hlong := reads_long ((isVerbatim_description_iff source).2 (hliteral.1 h.literal))
    rw [String.ofList_toList] at hlong
    have hline := all_line (reads_gap (reads_gap (reads_gap (reads_gap hlong)))) fuel
      (textBehind rows)
    simp only [List.append_assoc, List.cons_append, List.nil_append] at hline
    exact hline

/-- A source whose table is quoted for the database. -/
def quotedOrder : EnumSource String where
  table := "\"order\""
  keyColumn := "id"
  labelColumn := "name"
  name := "OrderKind"
  outputDirectory := none

/-- The quoted table is accepted and queried as it is, but its class is not described, and the module
of its rows cannot be read. -/
theorem quotedOrder_not_described :
    Config.sourceFaults
        { table := .ofString quotedOrder.table
          keyColumn := .ofString quotedOrder.keyColumn
          labelColumn := .ofString quotedOrder.labelColumn
          name := .ofString quotedOrder.name
          outputDirectory := none } = [] ∧
      quotedOrder.query = "SELECT id, name FROM \"order\" ORDER BY id" ∧
      (∀ rows, ¬quotedOrder.IsDescribed rows) ∧
      (SourceModule.ofText? (quotedOrder.moduleText [(.text "P", .text "Paper")])).isNone = true := by
  refine ⟨by decide +kernel, by decide +kernel, fun rows h => ?_, ?_⟩
  · exact ((isDescribed_iff quotedOrder rows).2.1.1 h).2.noQuoteAtEnd rfl
  · unfold SourceModule.ofText?
    rw [← String.length_toList, toList_moduleText_eq]
    decide +kernel

end TypeExport.EnumSource

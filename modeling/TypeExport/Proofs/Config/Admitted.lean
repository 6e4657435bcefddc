import Mathlib.Data.List.Forall2
import TypeExport.Config.Written
import TypeExport.Proofs.Keyed

/-!
# Admitted documents

The schema of configurations and the reader of configurations describe the format apart from each
other.  Whatever the schema admits is read: member by member the configuration is what the document
spells, and the default where the document says nothing.
-/

namespace TypeExport

namespace Schema

variable {s : Schema} {value : Json}

theorem firstItem_eq_none {check : Json → Option Violation} {items : List Json} {i : Nat} :
    firstItem check i items = none ↔ ∀ v ∈ items, check v = none := by
  induction items generalizing i with
  | nil => simp [firstItem]
  | cons v rest ih =>
    rw [firstItem, List.forall_mem_cons]
    cases hv : check v with
    | some violation => simp
    | none => simpa using ih

theorem firstValue_eq_none {check : Json → Option Violation} {entries : List (CodeText × Json)} :
    firstValue check entries = none ↔ ∀ e ∈ entries, check e.2 = none := by
  induction entries with
  | nil => simp [firstValue]
  | cons e rest ih =>
    rw [firstValue, List.forall_mem_cons]
    cases hv : check e.2 with
    | some violation => simp
    | none => simpa using ih

/-- Members break nothing if each one that is there fits its own schema. -/
theorem checkMembers_eq_none {members : List (String × Schema)}
    {entries : List (CodeText × Json)} :
    checkMembers members entries = none ↔ ∀ m ∈ members, ∀ v,
      (Json.object entries).get? m.1 = some v → m.2.check v = none := by
  induction members with
  | nil => simp [checkMembers]
  | cons m rest ih =>
    obtain ⟨key, s⟩ := m
    rw [checkMembers, List.forall_mem_cons, Option.or_eq_none_iff, ih]
    apply and_congr_left'
    rw [Json.get?]
    cases entries.lookup (CodeText.ofString key) <;> simp

theorem firstMissing_eq_none {entries : List (CodeText × Json)} {required : List String} :
    firstMissing entries required = none ↔
      ∀ key ∈ required, ∃ v, (Json.object entries).get? key = some v := by
  simp [firstMissing, Json.get?, ← Option.ne_none_iff_exists']

theorem unexpectedKeys_eq_none {entries : List (CodeText × Json)} {known : List String} :
    unexpectedKeys entries known = none ↔
      ∀ e ∈ entries, e.1 ∈ known.map CodeText.ofString := by
  have hnil : (∀ e ∈ entries, e.1 ∈ known.map CodeText.ofString) ↔
      ((entries.map (·.1)).filter fun key => !(known.map CodeText.ofString).contains key) = [] := by
    simp [List.filter_eq_nil_iff]
  rw [hnil]
  unfold unexpectedKeys
  split
  · next h => exact iff_of_true rfl h
  · next h => exact iff_of_false nofun h

theorem check_text_eq_none : text.check value = none ↔ ∃ t, value = .text t := by
  cases value <;> simp [check, wrongKind]

theorem check_textOrNull_eq_none :
    textOrNull.check value = none ↔ ∃ t : Option CodeText, value = t.elim .null .text := by
  cases value <;> simp [check, wrongKind, Option.exists]

theorem check_boolean_eq_none : boolean.check value = none ↔ ∃ b, value = .bool b := by
  cases value <;> simp [check, wrongKind]

theorem check_list_eq_none : (list s).check value = none ↔
    ∃ items, value = .array items ∧ ∀ v ∈ items, s.check v = none := by
  cases value <;> simp [check, wrongKind, firstItem_eq_none]

theorem check_table_eq_none : (table s).check value = none ↔
    ∃ entries, value = .object entries ∧ ∀ e ∈ entries, s.check e.2 = none := by
  cases value <;> simp [check, wrongKind, firstValue_eq_none]

/-- A record is an object whose known members are admitted, which has those that are required, and
which has no others. -/
theorem check_record_eq_none {members : List (String × Schema)} {required : List String} :
    (record members required).check value = none ↔ ∃ entries, value = .object entries ∧
      (∀ m ∈ members, ∀ v, value.get? m.1 = some v → m.2.check v = none) ∧
      (∀ key ∈ required, ∃ v, value.get? key = some v) ∧
      ∀ e ∈ entries, e.1 ∈ members.map fun m => CodeText.ofString m.1 := by
  cases value
  case object entries =>
    simp [check, checkMembers_eq_none, firstMissing_eq_none, unexpectedKeys_eq_none]
  all_goals simp [check, wrongKind]

end Schema


namespace Config

open CodeText (ofString)

section Spelling

variable {α : Type}

/-- A value that spells a text, or none. -/
def SpellsOptional (value : Json) (t : Option CodeText) : Prop :=
  value = t.elim .null .text

/-- A value that spells the members of a list, in order. -/
def SpellsList (Spells : Json → α → Prop) (value : Json) (l : List α) : Prop :=
  ∃ items, value = .array items ∧ List.Forall₂ Spells items l

/-- A value that spells texts under keys. -/
def SpellsTable (value : Json) (l : List (CodeText × CodeText)) : Prop :=
  value = .object (l.map fun (k, t) => (k, .text t))

/-- What a document says under a key; where it has no such member, the default. -/
def SpellsMember (document : Json) (key : String) (Spells : Json → α → Prop) (default a : α) :
    Prop :=
  match document.get? key with
  | some value => Spells value a
  | none => a = default

/-- Every value that the schema admits is read, and it spells what is read. -/
def ReadsAdmitted (s : Schema) (read : Json → Reading α) (Spells : Json → α → Prop) : Prop :=
  ∀ value, s.check value = none → ∃ a, read value = .ok a ∧ Spells value a

end Spelling

/-- A source with the texts of an object.  A missing directory and a null one are no directory. -/
structure SpellsSource (value : Json) (s : EnumSource CodeText) : Prop where
  table : value.get? "tableName" = some (.text s.table)
  keyColumn : value.get? "keyColumn" = some (.text s.keyColumn)
  labelColumn : value.get? "valueColumn" = some (.text s.labelColumn)
  name : value.get? "enumName" = some (.text s.name)
  outputDirectory : SpellsMember value "customOutputPath" SpellsOptional none s.outputDirectory

/-- A configuration with what a document says, and with the documented defaults for the members that
the document does not have. -/
structure Spells (document : Json) (c : Config CodeText) : Prop where
  connection : SpellsMember document "connectionString" (· = .text ·) (ofString "") c.connection
  targets : SpellsMember document "modulesToScan" (SpellsList (· = .text ·)) [] c.targets
  interfaceDirectory : SpellsMember document "typeScriptInterfacesOutputPath" (· = .text ·)
    (ofString "./src/app/core/models/generated/") c.interfaceDirectory
  enumDirectory : SpellsMember document "typeScriptEnumsOutputPath" (· = .text ·)
    (ofString "./src/app/core/enums/generated/") c.enumDirectory
  moduleDirectory : SpellsMember document "pythonEnumsOutputPath" (· = .text ·)
    (ofString "./generated/enums/") c.moduleDirectory
  sources : SpellsMember document "databaseEnums" (SpellsList SpellsSource) [] c.sources
  manifests : SpellsMember document "generateIndexFiles" (· = .bool ·) false c.manifests
  camelCaseKeys : SpellsMember document "useCamelCase" (· = .bool ·) true c.camelCaseKeys
  header : SpellsMember document "addGeneratedHeaders" (· = .bool ·) true c.header
  dropNavigation :
    SpellsMember document "ignoreNavigationProperties" (· = .bool ·) true c.dropNavigation
  inlineNested :
    SpellsMember document "generateNestedInterfaces" (· = .bool ·) true c.inlineNested
  keepIgnored :
    SpellsMember document "includeJsonIgnoreProperties" (· = .bool ·) true c.keepIgnored
  typeMappings : SpellsMember document "typeMappings" SpellsTable [] c.typeMappings

section Reading

variable {α β : Type} {s : Schema} {read : Json → Reading α} {Spells : Json → α → Prop}

theorem all_eq_ok_of_forall₂ {readings : List (Reading α)} {l : List α}
    (h : List.Forall₂ (fun r a => r = .ok a) readings l) : Reading.all readings = .ok l := by
  induction h with
  | nil => rfl
  | cons hr _ ih =>
    rw [Reading.all, hr, ih]
    rfl

theorem readsAdmitted_text : ReadsAdmitted .text asText (· = .text ·) := by
  intro value h
  obtain ⟨t, rfl⟩ := Schema.check_text_eq_none.1 h
  exact ⟨t, rfl, rfl⟩

theorem readsAdmitted_optionalText : ReadsAdmitted .textOrNull asOptionalText SpellsOptional := by
  intro value h
  obtain ⟨t, rfl⟩ := Schema.check_textOrNull_eq_none.1 h
  refine ⟨t, ?_, rfl⟩
  cases t <;> rfl

theorem readsAdmitted_boolean : ReadsAdmitted .boolean asBoolean (· = .bool ·) := by
  intro value h
  obtain ⟨b, rfl⟩ := Schema.check_boolean_eq_none.1 h
  exact ⟨b, rfl, rfl⟩

/-- The places in a list do not matter for what is read there. -/
theorem forall₂_items {items : List Json} {l : List α}
    (h : List.Forall₂ (fun v a => read v = .ok a) items l) (i : Nat) :
    List.Forall₂ (fun r a => r = .ok a)
      ((items.zipIdx i).map fun (v, i) => (read v).under (.index i)) l := by
  induction h generalizing i with
  | nil => exact .nil
  | cons hv _ ih =>
    rw [List.zipIdx_cons, List.map_cons]
    refine .cons ?_ (ih (i + 1))
    dsimp only
    rw [hv]
    rfl

theorem ReadsAdmitted.list (h : ReadsAdmitted s read Spells) :
    ReadsAdmitted (.list s) (asList read) (SpellsList Spells) := by
  intro value hvalue
  obtain ⟨items, rfl, hitems⟩ := Schema.check_list_eq_none.1 hvalue
  obtain ⟨l, hl⟩ := exists_forall₂_iff.2 fun v hv => h v (hitems v hv)
  refine ⟨l, all_eq_ok_of_forall₂ (forall₂_items (hl.imp fun _ _ => And.left) 0), items, rfl, ?_⟩
  exact hl.imp fun _ _ => And.right

/-- Tables of texts are read as the schema admits them. -/
theorem readsAdmitted_table : ReadsAdmitted (.table .text) (asTable asText) SpellsTable := by
  intro value hvalue
  obtain ⟨entries, rfl, hentries⟩ := Schema.check_table_eq_none.1 hvalue
  have hspelled : ∀ e ∈ entries, ∃ p : CodeText × CodeText, e = (p.1, .text p.2) := by
    intro e he
    obtain ⟨t, ht⟩ := Schema.check_text_eq_none.1 (hentries e he)
    exact ⟨(e.1, t), Prod.ext rfl ht⟩
  obtain ⟨l, hl⟩ := exists_forall₂_iff.2 hspelled
  obtain rfl : entries = l.map fun p => (p.1, .text p.2) := by
    rw [← List.forall₂_map_right_iff, List.forall₂_eq_eq_eq] at hl
    exact hl
  refine ⟨l, ?_, rfl⟩
  rw [asTable, List.map_map]
  apply all_eq_ok_of_forall₂
  rw [List.forall₂_map_left_iff, List.forall₂_same]
  exact fun _ _ => rfl

/-- The member of an admitted record is read as it is spelled. -/
theorem exists_member {members : List (String × Schema)} {required : List String} {document : Json}
    (hdocument : (Schema.record members required).check document = none) (key : String)
    (hkey : (key, s) ∈ members) (h : ReadsAdmitted s read Spells) (default : α) :
    ∃ a, member document key read (.ok default) = .ok a ∧
      SpellsMember document key Spells default a := by
  obtain ⟨-, -, hmembers, -, -⟩ := Schema.check_record_eq_none.1 hdocument
  unfold member SpellsMember
  cases hvalue : document.get? key with
  | none => exact ⟨default, rfl, rfl⟩
  | some value =>
    obtain ⟨a, ha, hspells⟩ := h value (hmembers _ hkey value hvalue)
    refine ⟨a, ?_, hspells⟩
    dsimp only
    rw [ha]
    rfl

/-- A required member is there, so its default does not matter. -/
theorem exists_required {members : List (String × Schema)} {required : List String}
    {document : Json} (hdocument : (Schema.record members required).check document = none)
    {key : String} (hkey : (key, .text) ∈ members) (hrequired : key ∈ required)
    (absent : Reading CodeText) :
    ∃ t, member document key asText absent = .ok t ∧ document.get? key = some (.text t) := by
  obtain ⟨-, -, hmembers, hrequiredMembers, -⟩ := Schema.check_record_eq_none.1 hdocument
  obtain ⟨value, hvalue⟩ := hrequiredMembers key hrequired
  obtain ⟨t, rfl⟩ := Schema.check_text_eq_none.1 (hmembers _ hkey value hvalue)
  refine ⟨t, ?_, hvalue⟩
  rw [member, hvalue]
  rfl

/-- Sources are read as the schema admits them. -/
theorem readsAdmitted_source : ReadsAdmitted sourceSchema asSource SpellsSource := by
  intro value h
  have hrequired : ∀ key ∈ ["tableName", "keyColumn", "valueColumn", "enumName"], ∃ t,
      member value key asText (.mismatch .missing) = .ok t ∧ value.get? key = some (.text t) := by
    intro key hkey
    refine exists_required h ?_ hkey _
    simp only [List.mem_cons, List.not_mem_nil, or_false] at hkey
    rcases hkey with rfl | rfl | rfl | rfl <;> simp
  obtain ⟨table, htable, hspellsTable⟩ := hrequired "tableName" (by decide)
  obtain ⟨keyColumn, hkey, hspellsKey⟩ := hrequired "keyColumn" (by decide)
  obtain ⟨labelColumn, hlabel, hspellsLabel⟩ := hrequired "valueColumn" (by decide)
  obtain ⟨name, hname, hspellsName⟩ := hrequired "enumName" (by decide)
  obtain ⟨directory, hdirectory, hspellsDirectory⟩ :=
    exists_member h "customOutputPath" (by simp) readsAdmitted_optionalText none
  obtain ⟨entries, rfl, -⟩ := Schema.check_record_eq_none.1 h
  refine ⟨⟨table, keyColumn, labelColumn, name, directory⟩, ?_, hspellsTable, hspellsKey,
    hspellsLabel, hspellsName, hspellsDirectory⟩
  simp only [asSource, htable, hkey, hlabel, hname, hdirectory]
  rfl

end Reading

/-- Whatever the schema admits is read, and the configuration is what the document spells. -/
theorem admitted_is_read {document : Json} (h : schema.check document = none) :
    ∃ c, ofJson document = .ok c ∧ Spells document c := by
  have htext := fun key hkey => exists_member h key hkey readsAdmitted_text
  have hflag := fun key hkey => exists_member h key hkey readsAdmitted_boolean
  obtain ⟨connection, hconnection, hconnection'⟩ :=
    htext "connectionString" (by simp) standard.connection
  obtain ⟨targets, htargets, htargets'⟩ :=
    exists_member h "modulesToScan" (by simp) readsAdmitted_text.list []
  obtain ⟨interfaces, hinterfaces, hinterfaces'⟩ :=
    htext "typeScriptInterfacesOutputPath" (by simp) standard.interfaceDirectory
  obtain ⟨enums, henums, henums'⟩ :=
    htext "typeScriptEnumsOutputPath" (by simp) standard.enumDirectory
  obtain ⟨modules, hmodules, hmodules'⟩ :=
    htext "pythonEnumsOutputPath" (by simp) standard.moduleDirectory
  obtain ⟨sources, hsources, hsources'⟩ :=
    exists_member h "databaseEnums" (by simp) readsAdmitted_source.list []
  obtain ⟨manifests, hmanifests, hmanifests'⟩ :=
    hflag "generateIndexFiles" (by simp) standard.manifests
  obtain ⟨camel, hcamel, hcamel'⟩ := hflag "useCamelCase" (by simp) standard.camelCaseKeys
  obtain ⟨header, hheader, hheader'⟩ := hflag "addGeneratedHeaders" (by simp) standard.header
  obtain ⟨navigation, hnavigation, hnavigation'⟩ :=
    hflag "ignoreNavigationProperties" (by simp) standard.dropNavigation
  obtain ⟨nested, hnested, hnested'⟩ :=
    hflag "generateNestedInterfaces" (by simp) standard.inlineNested
  obtain ⟨ignored, hignored, hignored'⟩ :=
    hflag "includeJsonIgnoreProperties" (by simp) standard.keepIgnored
  obtain ⟨mappings, hmappings, hmappings'⟩ :=
    exists_member h "typeMappings" (by simp) readsAdmitted_table []
  refine ⟨⟨connection, targets, interfaces, enums, modules, sources, manifests, camel, header,
    navigation, nested, ignored, mappings⟩, ?_, hconnection', htargets', hinterfaces', henums',
    hmodules', hsources', hmanifests', hcamel', hheader', hnavigation', hnested', hignored',
    hmappings'⟩
  simp only [ofJson, hconnection, htargets, hinterfaces, henums, hmodules, hsources, hmanifests,
    hcamel, hheader, hnavigation, hnested, hignored, hmappings]
  rfl

/-- A document with two sources, one of which leaves its directory out while that of the other is null.
Of the remaining members it has three. -/
def lookupDocument : Json :=
  let source (name : String) (more : List (String × Json)) : Json :=
    .record ([("tableName", .text (ofString "kinds")), ("keyColumn", .text (ofString "id")),
      ("valueColumn", .text (ofString "name")), ("enumName", .text (ofString name))] ++ more)
  .record [("$schema", .text (ofString "typegen_config.schema.json")),
    ("databaseEnums", .array [source "Kind" [], source "Sort" [("customOutputPath", .null)]]),
    ("useCamelCase", .bool false),
    ("typeMappings", .record [("Money", .text (ofString "string | null"))])]

theorem lookupDocument_is_read :
    schema.check lookupDocument = none ∧
      ∃ c, ofJson lookupDocument = .ok c ∧ Spells lookupDocument c :=
  ⟨rfl, admitted_is_read rfl⟩

end Config

end TypeExport

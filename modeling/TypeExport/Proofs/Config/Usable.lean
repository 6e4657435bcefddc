import TypeExport.Proofs.Config.Accepted
import TypeExport.Proofs.Config.Admitted
import TypeExport.Proofs.Text.UpperCase

/-!
# Usable configurations

A document that the schema admits is loaded exactly if its configuration is usable and the
surroundings serve it.  A configuration that is served and not usable is refused with one entry for
each rule that it breaks.
-/

namespace TypeExport.Config

open CodeText (ofString)

/-!
## Rules
-/

/-- A source of an enumeration that can be queried and whose name a class can have. -/
structure IsUsableSource (s : EnumSource CodeText) : Prop where
  table : isBlank s.table = false
  keyColumn : isBlank s.keyColumn = false
  labelColumn : isBlank s.labelColumn = false
  identifier : Text.isIdentifier s.name.codes = true
  notKeyword : ∀ name, s.name.toString? = some name → Name.isKeyword name = false

/-- Whoever has sources needs a connection, and whoever has targets the two directories of the scan. -/
structure IsUsable (c : Config CodeText) : Prop where
  connection : c.sources ≠ [] → isBlank c.connection = false
  sources : ∀ s ∈ c.sources, IsUsableSource s
  interfaceDirectory : c.targets ≠ [] → isBlank c.interfaceDirectory = false
  enumDirectory : c.targets ≠ [] → isBlank c.enumDirectory = false

/-- A rule about one setting, and what is wrong if the setting breaks it. -/
structure Rule where
  isBroken : Bool
  fault : Fault

/-- The rules for a source.  A blank name is only reported as missing. -/
def sourceRules (s : EnumSource CodeText) : List Rule :=
  [⟨isBlank s.table, .noTable⟩, ⟨isBlank s.keyColumn, .noKeyColumn s.name⟩,
   ⟨isBlank s.labelColumn, .noLabelColumn s.name⟩, ⟨isBlank s.name, .noEnumName s.table⟩,
   ⟨!isBlank s.name && !isLegalName s.name, .illegalEnumName s.name⟩]

/-- The rules for a configuration: the connection, the sources one after the other, and the
directories of the scan. -/
def rules (c : Config CodeText) : List Rule :=
  (if c.sources = [] then []
   else ⟨isBlank c.connection, .noConnection⟩ :: c.sources.flatMap sourceRules) ++
  if c.targets = [] then []
  else [⟨isBlank c.interfaceDirectory, .noInterfaceDirectory⟩,
    ⟨isBlank c.enumDirectory, .noEnumDirectory⟩]

/-- What is wrong with a configuration: an entry for each rule that is broken, in their order. -/
def faultsOf (rules : List Rule) : List Fault :=
  (rules.filter (·.isBroken)).map (·.fault)

theorem faultsOf_append (first second : List Rule) :
    faultsOf (first ++ second) = faultsOf first ++ faultsOf second := by
  unfold faultsOf
  rw [List.filter_append, List.map_append]

theorem faultsOf_cons (isBroken : Bool) (fault : Fault) (rest : List Rule) :
    faultsOf (⟨isBroken, fault⟩ :: rest) = (if isBroken then [fault] else []) ++ faultsOf rest := by
  cases isBroken <;> rfl

theorem faultsOf_eq_nil_iff {rules : List Rule} :
    faultsOf rules = [] ↔ ∀ rule ∈ rules, rule.isBroken = false := by
  unfold faultsOf
  rw [List.map_eq_nil_iff, List.filter_eq_nil_iff]
  simp

theorem sourceFaults_eq (s : EnumSource CodeText) : sourceFaults s = faultsOf (sourceRules s) := by
  unfold sourceFaults sourceRules
  simp only [faultsOf_cons]
  cases isBlank s.name <;> cases isLegalName s.name <;> simp [faultsOf]

theorem sourceFaults_flatMap (sources : List (EnumSource CodeText)) :
    sources.flatMap sourceFaults = faultsOf (sources.flatMap sourceRules) := by
  induction sources with
  | nil => rfl
  | cons s rest ih =>
    rw [List.flatMap_cons, List.flatMap_cons, faultsOf_append, ih, sourceFaults_eq]

/-!
## Usable configurations break no rule
-/

/-- An identifier is not blank. -/
theorem isBlank_of_isIdentifier {t : CodeText} (h : Text.isIdentifier t.codes = true) :
    isBlank t = false := by
  cases t with
  | nil => cases h
  | cons c rest =>
    rw [CodeText.codes, List.map_cons, Text.isIdentifier, Bool.and_eq_true] at h
    rw [isBlank, List.all_cons, Bool.and_eq_false_iff]
    left
    rw [← Bool.not_eq_true]
    intro hblank
    rw [Text.startsIdentifier_of_isBlank hblank] at h
    exact Bool.false_ne_true h.1

theorem isLegalName_iff {t : CodeText} : isLegalName t = true ↔
    Text.isIdentifier t.codes = true ∧
      ∀ name, t.toString? = some name → Name.isKeyword name = false := by
  unfold isLegalName
  rw [Bool.and_eq_true]
  cases t.toString? <;> simp

/-- A source is usable if it breaks none of the rules. -/
theorem isUsableSource_iff {s : EnumSource CodeText} :
    IsUsableSource s ↔ ∀ rule ∈ sourceRules s, rule.isBroken = false := by
  unfold sourceRules
  simp only [List.forall_mem_cons, List.not_mem_nil, false_implies, implies_true, and_true]
  constructor
  · intro h
    have hlegal := isLegalName_iff.2 ⟨h.identifier, h.notKeyword⟩
    have hname := isBlank_of_isIdentifier h.identifier
    exact ⟨h.table, h.keyColumn, h.labelColumn, hname, by rw [hlegal, Bool.not_true, Bool.and_false]⟩
  · rintro ⟨htable, hkey, hlabel, hname, hlegal⟩
    rw [hname, Bool.not_false, Bool.true_and, Bool.not_eq_false'] at hlegal
    obtain ⟨hidentifier, hkeyword⟩ := isLegalName_iff.1 hlegal
    exact ⟨htable, hkey, hlabel, hidentifier, hkeyword⟩

/-- A configuration is usable exactly if nothing is wrong with it. -/
theorem isUsable_iff {c : Config CodeText} : c.IsUsable ↔ faultsOf c.rules = [] := by
  rw [faultsOf_eq_nil_iff]
  unfold rules
  rw [List.forall_mem_append]
  constructor
  · intro h
    refine ⟨?_, ?_⟩
    · split
      · exact nofun
      · rename_i hsources
        refine List.forall_mem_cons.2 ⟨h.connection hsources, fun rule hrule => ?_⟩
        obtain ⟨s, hs, hrule⟩ := List.mem_flatMap.1 hrule
        exact isUsableSource_iff.1 (h.sources s hs) rule hrule
    · split
      · exact nofun
      · rename_i htargets
        simp [h.interfaceDirectory htargets, h.enumDirectory htargets]
  · rintro ⟨hsources, htargets⟩
    refine ⟨fun hne => ?_, fun s hs => ?_, fun hne => ?_, fun hne => ?_⟩
    · rw [if_neg hne] at hsources
      exact (List.forall_mem_cons.1 hsources).1
    · rw [if_neg (List.ne_nil_of_mem hs)] at hsources
      refine isUsableSource_iff.2 fun rule hrule => hsources rule ?_
      exact List.mem_cons_of_mem _ (List.mem_flatMap.2 ⟨s, hs, hrule⟩)
    · rw [if_neg hne] at htargets
      exact (List.forall_mem_cons.1 htargets).1
    · rw [if_neg hne] at htargets
      exact (List.forall_mem_cons.1 (List.forall_mem_cons.1 htargets).2).1

/-!
## Reviews
-/

section Reviews

variable {κ : Type} {env : Environment} {files : FileTree κ} {c c' : Config CodeText}
  {review : Review}

theorem faults_of_reviewSources (h : reviewSources env files c = .ok review) :
    review.faults = faultsOf (if c.sources = [] then []
      else ⟨isBlank c.connection, .noConnection⟩ :: c.sources.flatMap sourceRules) := by
  by_cases hsources : c.sources = []
  · rw [reviewSources, if_pos (by simp [hsources])] at h
    cases h
    rw [if_pos hsources]
    rfl
  · rw [(of_reviewSources hsources h).1, if_neg hsources, faultsOf_cons, sourceFaults_flatMap]

/-- An output path is a fault just if it is blank. -/
theorem faults_of_reviewOutput {setting : String} {path : CodeText} {fault : Fault}
    (h : reviewOutput env files setting path fault = .ok review) :
    review.faults = faultsOf [⟨isBlank path, fault⟩] := by
  unfold reviewOutput at h
  cases hblank : isBlank path with
  | true =>
    rw [hblank] at h
    cases h
    rfl
  | false =>
    rw [hblank] at h
    obtain ⟨remarks, -, hreview⟩ := bind_eq_ok_iff.1 h
    cases hreview
    rfl

/-- Without targets the output paths do not matter. -/
theorem faults_of_reviewTargets (h : reviewTargets env files c = .ok review) :
    review.faults = faultsOf (if c.targets = [] then []
      else [⟨isBlank c.interfaceDirectory, .noInterfaceDirectory⟩,
        ⟨isBlank c.enumDirectory, .noEnumDirectory⟩]) := by
  unfold reviewTargets at h
  by_cases htargets : c.targets = []
  · rw [if_pos (by simp [htargets])] at h
    cases h
    rw [if_pos htargets]
    rfl
  · rw [if_neg (by simpa using htargets)] at h
    obtain ⟨interfaces, hinterfaces, hrest⟩ := bind_eq_ok_iff.1 h
    obtain ⟨enums, henums, hreview⟩ := bind_eq_ok_iff.1 hrest
    cases hreview
    rw [if_neg htargets]
    dsimp only
    rw [faults_of_reviewOutput hinterfaces, faults_of_reviewOutput henums, ← faultsOf_append]
    rfl

/-- A review finds exactly the rules that are broken, whatever it remarks. -/
theorem faults_of_review (h : c.review env files = .ok review) :
    review.faults = faultsOf c.rules := by
  obtain ⟨sources, hsources, hrest⟩ := bind_eq_ok_iff.1 h
  obtain ⟨targets, htargets, hreview⟩ := bind_eq_ok_iff.1 hrest
  cases hreview
  unfold rules
  rw [faultsOf_append, ← faults_of_reviewSources hsources, ← faults_of_reviewTargets htargets]

/-- A configuration whose output paths can be looked up is accepted if it is usable, and refused with
what is wrong otherwise. -/
theorem accept_of_isReviewable (h : ∀ path ∈ c.reviewedPaths, IsReviewable env files path) :
    (accept env files c).2 =
      if faultsOf c.rules = [] then .ok c else .error (.rules (faultsOf c.rules)) := by
  obtain ⟨review, hreview⟩ := review_isOk_iff.2 h
  unfold accept
  rw [hreview, ← faults_of_review hreview]
  dsimp only
  cases review.faults <;> rfl

/-!
## Connections
-/

/-- The configuration with an empty connection replaced by that of the variables. -/
def connected (env : Environment) (c : Config CodeText) : Config CodeText :=
  if c.connection = [] then { c with connection := ofString (env.value "TYPEGEN_DATABASE_URL") }
  else c

theorem reviewedPaths_connected (env : Environment) (c : Config CodeText) :
    (c.connected env).reviewedPaths = c.reviewedPaths := by
  unfold connected
  split <;> rfl

/-- The settings change an empty connection alone. -/
theorem eq_connected_of_withConnection (h : withConnection env c = .ok c') :
    c' = c.connected env := by
  unfold withConnection at h
  unfold connected
  by_cases hempty : c.connection = []
  · rw [if_pos (by simp [hempty])] at h
    rw [if_pos hempty]
    cases hsettings : Settings.ofEnvironment env with
    | error e =>
      rw [hsettings] at h
      cases h
    | ok s =>
      rw [hsettings] at h
      cases h
      obtain ⟨workers, -, hs⟩ := bind_eq_ok_iff.1 hsettings
      cases hs
      rfl
  · rw [if_neg (by simpa using hempty)] at h
    rw [if_neg hempty]
    cases h
    rfl

theorem withConnection_of_isServed (h : c.IsServed env files) :
    withConnection env c = .ok (c.connected env) := by
  obtain ⟨c', hc'⟩ := withConnection_isOk_iff.2 h.settings
  rw [hc', eq_connected_of_withConnection hc']

/-- What becomes of a configuration that is served. -/
theorem served_result (h : c.IsServed env files) :
    (withConnection env c >>= fun c => (accept env files c).2) =
      if faultsOf (c.connected env).rules = [] then .ok (c.connected env)
      else .error (.rules (faultsOf (c.connected env).rules)) := by
  rw [withConnection_of_isServed h, bind_ok]
  refine accept_of_isReviewable ?_
  rw [reviewedPaths_connected]
  exact h.outputs

/-- A configuration that is not served fails, but not for what it says. -/
theorem error_of_not_isServed (h : ¬c.IsServed env files) :
    ∃ e, (withConnection env c >>= fun c => (accept env files c).2) = .error e ∧
      e.isInvalid = false := by
  rw [← served_failsReported_iff] at h
  cases hresult : withConnection env c >>= fun c => (accept env files c).2 with
  | ok c' =>
    rw [hresult] at h
    exact absurd (failsReported_ok c') h
  | error e =>
    rw [hresult, failsReported_error_iff, Bool.not_eq_true] at h
    exact ⟨e, rfl, h⟩

end Reviews

/-!
## Loads
-/

theorem joinWith_cons_eq_flatMap {α : Type} (sep : α) (piece : List α) (pieces : List (List α)) :
    Text.joinWith sep (piece :: pieces) = piece ++ pieces.flatMap (sep :: ·) := by
  induction pieces generalizing piece with
  | nil => exact (List.append_nil _).symm
  | cons next rest ih =>
    rw [Text.joinWith, ih, List.flatMap_cons, List.cons_append]
    exact List.cons_ne_nil _ _

/-- The message has a line for each fault behind the heading. -/
theorem message_rules {faults : List Fault} (hne : faults ≠ []) :
    (LoadError.rules faults).message = ofString "Configuration validation failed:" ++
      faults.flatMap fun f => ofString "\n  - " ++ f.message := by
  have hheading : ofString "Configuration validation failed:\n" =
      ofString "Configuration validation failed:" ++ [⟨10, by decide⟩] := by
    decide +kernel
  have hentry : ofString "\n  - " = ⟨10, by decide⟩ :: ofString "  - " := by
    decide +kernel
  obtain ⟨first, rest, rfl⟩ := List.exists_cons_of_ne_nil hne
  rw [LoadError.message, faultList, List.map_cons, joinWith_cons_eq_flatMap, List.flatMap_map,
    List.flatMap_cons, hheading, hentry]
  simp only [List.append_assoc, List.cons_append, List.nil_append]

section Loads

variable {κ : Type} [TextContent κ] {env : Environment} {files : FileTree κ} {name : String}
  {document : Json}

/-- The file that a name leads to spells a document, comments apart. -/
def Finds (env : Environment) (files : FileTree κ) (name : String) (document : Json) : Prop :=
  ∃ p path content text, env.expandHome (Path.ofString name) = some p ∧
    IsFoundAt env files p path ∧ files.read env.workingDirectory path = .ok content ∧
    Utf8.decode? (TextContent.bytes content) = some text ∧
    Json.readWithin env.nestingLimit (stripChars (unifyLines text)) = .ok document

/-- The load of an admitted document goes on with its configuration. -/
theorem load_of_finds (hfinds : Finds env files name document) (hschema : schema.check document = none)
    {c : Config CodeText} (hc : ofJson document = .ok c) :
    (load env files name).2 = withConnection env c >>= fun c => (accept env files c).2 := by
  obtain ⟨p, path, content, text, hp, hfound, hread, htext, hdocument⟩ := hfinds
  have hpath : filePath env files name = .ok path := filePath_eq_ok_iff.2 ⟨p, hp, hfound⟩
  have hbytes : ofBytes env (TextContent.bytes content) = .ok c := by
    simp only [ofBytes, readDocument, ofDocument, htext, hdocument, hschema, hc, pure_eq, bind_ok]
  rw [load_result, hpath, bind_ok, openFile_eq_ok_iff.2 ⟨content, hread, rfl⟩, bind_ok, hbytes,
    bind_ok]

/-- A document that the schema admits is read, and its configuration is loaded exactly if the
surroundings serve it and it is usable with the connection that they give.  What is loaded differs
from what was read in an empty connection alone.  A configuration that is served and not usable is
refused with one entry for each rule that it breaks, in the order of the rules; one that is not
served ends the load with another failure. -/
theorem load_iff_usable (hfinds : Finds env files name document)
    (hschema : schema.check document = none) :
    ∃ c, ofJson document = .ok c ∧ Spells document c ∧
      ((∃ c', (load env files name).2 = .ok c') ↔
        c.IsServed env files ∧ (c.connected env).IsUsable) ∧
      (∀ c', (load env files name).2 = .ok c' → c' = c.connected env) ∧
      (c.IsServed env files → ∀ e, (load env files name).2 = .error e →
        e = .rules (faultsOf (c.connected env).rules) ∧
        e.message = ofString "Configuration validation failed:" ++
          (faultsOf (c.connected env).rules).flatMap fun f => ofString "\n  - " ++ f.message) ∧
      (¬c.IsServed env files → ∃ e, (load env files name).2 = .error e ∧ e.isInvalid = false) := by
  obtain ⟨c, hc, hspells⟩ := admitted_is_read hschema
  have hload := load_of_finds hfinds hschema hc
  by_cases hserved : c.IsServed env files
  · rw [served_result hserved] at hload
    refine ⟨c, hc, hspells, ?_⟩
    rw [isUsable_iff]
    by_cases hfaults : faultsOf (c.connected env).rules = []
    · rw [if_pos hfaults] at hload
      refine ⟨iff_of_true ⟨_, hload⟩ ⟨hserved, hfaults⟩, fun c' hc' => ?_, fun _ e he => ?_,
        fun hunserved => absurd hserved hunserved⟩
      · rw [hload] at hc'
        exact (Except.ok.inj hc').symm
      · rw [hload] at he
        cases he
    · rw [if_neg hfaults] at hload
      refine ⟨iff_of_false ?_ fun h => hfaults h.2, fun c' hc' => ?_, fun _ e he => ?_,
        fun hunserved => absurd hserved hunserved⟩
      · rintro ⟨c', hc'⟩
        rw [hload] at hc'
        cases hc'
      · rw [hload] at hc'
        cases hc'
      · rw [hload] at he
        cases he
        exact ⟨rfl, message_rules hfaults⟩
  · obtain ⟨e, he, hinvalid⟩ := error_of_not_isServed hserved
    rw [← hload] at he
    refine ⟨c, hc, hspells, iff_of_false ?_ fun h => hserved h.1, fun c' hc' => ?_,
      fun h => absurd h hserved, fun _ => ⟨e, he, hinvalid⟩⟩
    · rintro ⟨c', hc'⟩
      rw [he] at hc'
      cases hc'
    · rw [he] at hc'
      cases hc'

end Loads

/-- A source with a blank key column that is called by a keyword. -/
def classText : String :=
  "\x7b\"databaseEnums\": [\x7b\"tableName\": \"kinds\", \"keyColumn\": \" \", \"valueColumn\": \"name\", \"enumName\": \"class\"\x7d]\x7d"

def classSource : Importer :=
  .ofEntries [] [([standardFile], .file (.text classText))]

def classDocument : Json :=
  .object [(ofString "databaseEnums", .array [.object [(ofString "tableName", .text (ofString "kinds")),
    (ofString "keyColumn", .text (ofString " ")), (ofString "valueColumn", .text (ofString "name")),
    (ofString "enumName", .text (ofString "class"))]])]

def classConfig : Config CodeText :=
  { standard with sources := [
      { table := ofString "kinds", keyColumn := ofString " ", labelColumn := ofString "name"
        name := ofString "class", outputDirectory := none }] }

/-- The standard file is found in the working directory. -/
theorem finds_classSource :
    Finds classSource.environment classSource.files standardFile classDocument := by
  have hdecode : Utf8.decode? (Utf8.encode classText) = some classText.toList := by
    decide +kernel
  have hread : Json.readWithin classSource.environment.nestingLimit
      (stripChars (unifyLines classText.toList)) = .ok classDocument := by
    cbv
  have hthere : classSource.files.pathExists classSource.environment.workingDirectory
      ((Path.ofLocation classSource.environment.workingDirectory).join
        (Path.ofString standardFile)) = .ok true := by
    rfl
  exact ⟨Path.ofString standardFile, _, .text classText, classText.toList, rfl,
    .nearby rfl hthere, rfl, hdecode, hread⟩

/-- The connection, the key column and the name of the source are missed, one after the other. -/
theorem classSource_is_refused :
    Finds classSource.environment classSource.files standardFile classDocument ∧
    schema.check classDocument = none ∧ ofJson classDocument = .ok classConfig ∧
    ∃ e, (load classSource.environment classSource.files standardFile).2 = .error e ∧
      e = .rules [.noConnection, .noKeyColumn (ofString "class"),
        .illegalEnumName (ofString "class")] := by
  have hschema : schema.check classDocument = none := rfl
  have hconfig : ofJson classDocument = .ok classConfig := rfl
  have hserved : classConfig.IsServed classSource.environment classSource.files := by
    refine ⟨fun _ => ⟨_, rfl⟩, fun path hpath => ?_⟩
    obtain rfl : path = standard.moduleDirectory := List.mem_singleton.1 hpath
    exact ⟨_, _, rfl, rfl⟩
  have hfaults : faultsOf (classConfig.connected classSource.environment).rules =
      [.noConnection, .noKeyColumn (ofString "class"), .illegalEnumName (ofString "class")] := by
    decide +kernel
  refine ⟨finds_classSource, hschema, hconfig, ?_⟩
  obtain ⟨c, hc, -, hloaded, -, hrefused, -⟩ := load_iff_usable finds_classSource hschema
  obtain rfl : classConfig = c := Except.ok.inj (hconfig.symm.trans hc)
  cases hload : (load classSource.environment classSource.files standardFile).2 with
  | ok c' =>
    have husable := (hloaded.1 ⟨c', hload⟩).2
    rw [isUsable_iff, hfaults] at husable
    cases husable
  | error e =>
    obtain ⟨he, -⟩ := hrefused hserved e hload
    rw [hfaults] at he
    exact ⟨e, rfl, he⟩

end TypeExport.Config

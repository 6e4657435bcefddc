import Mathlib.Data.List.Basic
import TypeExport.Proofs.Config.LoadFailures

/-!
# Accepted configurations

A configuration that is loaded has passed its review, so its output paths were looked up.  It is run
with the strings that its texts stand for.
-/

namespace TypeExport

namespace CodeText

variable {c : CodePoint} {char : Char} {t : CodeText} {s : String}

/-- A code point is a character just if it is no surrogate. -/
theorem toChar?_eq_some_iff : c.toChar? = some char ↔ c = .ofChar char := by
  constructor
  · intro h
    unfold CodePoint.toChar? at h
    split at h
    · rename_i hvalid
      cases h
      apply Fin.ext
      show c.val = (Char.ofNat c.val).toNat
      unfold Char.ofNat
      rw [dif_pos hvalid]
      rfl
    · cases h
  · rintro rfl
    exact CodePoint.toChar?_ofChar char

/-- A text stands for the string with its code points. -/
theorem toString?_eq_some_iff : t.toString? = some s ↔ t = ofString s := by
  constructor
  · intro h
    obtain ⟨chars, hchars, rfl⟩ := Option.map_eq_some_iff.1 h
    unfold ofString
    rw [String.toList_ofList]
    clear h
    induction t generalizing chars with
    | nil =>
      cases hchars
      rfl
    | cons c rest ih =>
      rw [List.mapM_cons] at hchars
      obtain ⟨char, hchar, hmore⟩ := Option.bind_eq_some_iff.1 hchars
      obtain ⟨more, hrest, hcons⟩ := Option.bind_eq_some_iff.1 hmore
      cases hcons
      rw [List.map_cons, ← ih more hrest, toChar?_eq_some_iff.1 hchar]
  · rintro rfl
    exact toString?_ofString s

end CodeText

namespace Config

open CodeText (ofString)

theorem isBlank_ofString (s : String) : isBlank (ofString s) = Text.allBlank s := by
  unfold isBlank ofString Text.allBlank
  rw [List.all_map]
  rfl

/-- The texts that a converted configuration has. -/
theorem texts_of_map? {σ τ : Type} {f : σ → Option τ} {c : Config σ} {c' : Config τ}
    (h : c.map? f = some c') :
    f c.moduleDirectory = some c'.moduleDirectory ∧
      f c.interfaceDirectory = some c'.interfaceDirectory ∧
      f c.enumDirectory = some c'.enumDirectory ∧ c.targets.mapM f = some c'.targets ∧
      c.sources.mapM (EnumSource.map? f) = some c'.sources := by
  unfold map? at h
  simp only [Option.bind_eq_bind, Option.bind_eq_some_iff, Option.pure_def, Option.some.injEq] at h
  obtain ⟨_, _, _, htargets, _, hinterfaces, _, henums, _, hmodules, _, hsources, _, _, rfl⟩ := h
  exact ⟨hmodules, hinterfaces, henums, htargets, hsources⟩

theorem name_of_map? {σ τ : Type} {f : σ → Option τ} {source : EnumSource σ}
    {source' : EnumSource τ} (h : source.map? f = some source') :
    f source.name = some source'.name := by
  unfold EnumSource.map? at h
  dsimp only at h
  split at h
  all_goals
    simp only [Option.bind_eq_bind, Option.bind_eq_some_iff, Option.pure_def, Option.some.injEq] at h
    obtain ⟨_, -, _, -, _, -, _, -, _, hname, rfl⟩ := h
    exact hname

/-- A configuration in which the review finds no fault. -/
def IsAccepted {κ : Type} (env : Environment) (files : FileTree κ) (c : Config CodeText) : Prop :=
  ∃ review, c.review env files = .ok review ∧ review.faults = []

section Accepted

variable {κ : Type} {env : Environment} {files : FileTree κ} {c : Config CodeText}
  {run : Config String}

/-- What is loaded is accepted. -/
theorem isAccepted_of_load [TextContent κ] {name : String}
    (h : (load env files name).2 = .ok c) : c.IsAccepted env files := by
  have haccept : ∃ c', (accept env files c').2 = .ok c := by
    rw [load_result] at h
    obtain ⟨path, -, hopen⟩ := bind_eq_ok_iff.1 h
    obtain ⟨bytes, -, hread⟩ := bind_eq_ok_iff.1 hopen
    obtain ⟨c', -, hconnect⟩ := bind_eq_ok_iff.1 hread
    obtain ⟨c'', -, haccept⟩ := bind_eq_ok_iff.1 hconnect
    exact ⟨c'', haccept⟩
  obtain ⟨c', haccept⟩ := haccept
  unfold accept at haccept
  split at haccept
  · cases haccept
  · rename_i review hreview
    dsimp only at haccept
    split at haccept
    · rename_i hfaults
      cases haccept
      exact ⟨review, hreview, List.isEmpty_iff.1 hfaults⟩
    · cases haccept

/-- The output paths of an accepted configuration were looked up. -/
theorem IsAccepted.outputLocation (h : c.IsAccepted env files) {path : CodeText}
    (hpath : path ∈ c.reviewedPaths) : ∃ l, outputLocation env path = .ok l := by
  obtain ⟨review, hreview, -⟩ := h
  obtain ⟨l, b, hl, -⟩ := review_isOk_iff.1 ⟨review, hreview⟩ path hpath
  exact ⟨l, hl⟩

/-- The review of the sources, if there are any. -/
theorem of_reviewSources {review : Review} (hne : c.sources ≠ [])
    (h : reviewSources env files c = .ok review) :
    review.faults = (if isBlank c.connection then [.noConnection] else []) ++
        c.sources.flatMap sourceFaults ∧
      (isBlank c.moduleDirectory = true → review.remarks = [.noModuleDirectory]) := by
  unfold reviewSources at h
  rw [if_neg (by simpa using hne)] at h
  dsimp only at h
  split at h
  · cases h
    exact ⟨rfl, fun _ => rfl⟩
  · rename_i hblank
    obtain ⟨remarks, -, hreview⟩ := bind_eq_ok_iff.1 h
    cases hreview
    exact ⟨rfl, fun h => absurd h hblank⟩

theorem of_review {review : Review} (h : c.review env files = .ok review) :
    ∃ sources targets, reviewSources env files c = .ok sources ∧
      review.faults = sources.faults ++ targets ∧ ∃ more, review.remarks = sources.remarks ++ more := by
  obtain ⟨sources, hsources, hrest⟩ := bind_eq_ok_iff.1 h
  obtain ⟨targets, -, hreview⟩ := bind_eq_ok_iff.1 hrest
  cases hreview
  exact ⟨sources, targets.faults, hsources, rfl, targets.remarks, rfl⟩

theorem IsAccepted.sourceFaults (h : c.IsAccepted env files) {source : EnumSource CodeText}
    (hsource : source ∈ c.sources) : sourceFaults source = [] := by
  obtain ⟨review, hreview, hfaults⟩ := h
  obtain ⟨sources, targets, hsources, hall, -⟩ := of_review hreview
  have hnone := (of_reviewSources (List.ne_nil_of_mem hsource) hsources).1
  rw [hfaults, hnone] at hall
  have hflat := (List.append_eq_nil_iff.1 (List.append_eq_nil_iff.1 hall.symm).1).2
  exact List.flatMap_eq_nil_iff.1 hflat source hsource

theorem isLegalName_of_sourceFaults {source : EnumSource CodeText}
    (h : sourceFaults source = []) : isLegalName source.name = true := by
  unfold Config.sourceFaults at h
  have hname := (List.append_eq_nil_iff.1 h).2
  split at hname
  · cases hname
  · split at hname
    · assumption
    · cases hname

/-- What a list is mapped to comes from its items. -/
theorem exists_of_mem_mapM {σ τ : Type} {f : σ → Option τ} {l : List σ} {m : List τ}
    (h : l.mapM f = some m) {b : τ} (hb : b ∈ m) : ∃ a ∈ l, f a = some b := by
  induction l generalizing m with
  | nil =>
    cases h
    exact (List.not_mem_nil hb).elim
  | cons a rest ih =>
    rw [List.mapM_cons] at h
    obtain ⟨b', hb', hmore⟩ := Option.bind_eq_some_iff.1 h
    obtain ⟨more, hrest, hcons⟩ := Option.bind_eq_some_iff.1 hmore
    cases hcons
    rcases List.mem_cons.1 hb with rfl | hb
    · exact ⟨a, List.mem_cons_self, hb'⟩
    · obtain ⟨a', ha', hfa⟩ := ih hrest hb
      exact ⟨a', List.mem_cons_of_mem _ ha', hfa⟩

/-- The enums of an accepted configuration are called by identifiers. -/
theorem IsAccepted.isIdentifier (h : c.IsAccepted env files)
    (hrun : c.map? CodeText.toString? = some run) :
    ∀ source ∈ run.sources, Name.isIdentifier source.name = true := by
  intro source hsource
  obtain ⟨original, horiginal, hmap⟩ := exists_of_mem_mapM (texts_of_map? hrun).2.2.2.2 hsource
  have hlegal := isLegalName_of_sourceFaults (h.sourceFaults horiginal)
  have hname : original.name = ofString source.name :=
    CodeText.toString?_eq_some_iff.1 (name_of_map? hmap)
  unfold isLegalName at hlegal
  rw [Bool.and_eq_true, hname] at hlegal
  have hcodes : (ofString source.name).codes = source.name.toList.map Char.toNat := by
    unfold CodeText.codes ofString
    rw [List.map_map]
    rfl
  rw [hcodes] at hlegal
  exact hlegal.1

end Accepted

end Config

end TypeExport

import TypeExport.Proofs.Keyed
import TypeExport.Proofs.Scan.OneTarget

/-!
# Requests with redundant entries

A request is looked up entry by entry, and the targets of one place count once.  Blank entries and
repeated ones are not even looked up.  Another entry changes nothing if it is found as an earlier
target without an import; that of a path always is.  What a request has loaded is there when the same
targets are found again.
-/

namespace TypeExport

/-- What holds of every single result holds of the list. -/
theorem forall₂_of_mapM {ε σ α γ : Type} {s t : σ} {R : α → γ → Prop} {l : List α} {cs : List γ}
    {f : α → ExceptT ε (StateM σ) γ} (h : Gives (l.mapM f) s cs t)
    (hR : ∀ a s c t, Gives (f a) s c t → R a c) : List.Forall₂ R l cs := by
  induction l generalizing s cs t with
  | nil =>
    rw [List.mapM_nil] at h
    obtain ⟨rfl, -⟩ := (gives_pure _ _).unique h
    exact .nil
  | cons a rest ih =>
    rw [List.mapM_cons] at h
    obtain ⟨c, u, hc, h⟩ := h.of_bind
    obtain ⟨more, v, hmore, h⟩ := h.of_bind
    obtain ⟨rfl, -⟩ := (gives_pure _ _).unique h
    exact .cons (hR a s c u hc) (ih hmore)

namespace Importer

variable {imp : Importer} {t l : LoadedTarget} {p q : Progress}

/-- Loading files leaves the target what it is. -/
theorem target_of_loadFiles {directory : Location} {names : List String}
    (h : Gives (imp.loadFiles directory t names) p l q) : l.target = t.target := by
  induction names generalizing t p with
  | nil =>
    obtain ⟨rfl, -⟩ := (gives_pure t p).unique h
    rfl
  | cons name rest ih =>
    unfold loadFiles at h
    obtain ⟨result, r, -, h⟩ := h.of_bind
    cases result with
    | ok handle => exact (ih h).trans rfl
    | error f =>
      obtain ⟨-, r', -, h⟩ := h.of_bind
      exact (ih h).trans rfl

theorem target_of_loadDirectory {target : Target} {directory : Location}
    (h : Gives (imp.loadDirectory target directory) p l q) : l.target = target := by
  unfold loadDirectory at h
  dsimp only at h
  split at h
  · obtain ⟨-, r, -, h⟩ := h.of_bind
    exact target_of_loadFiles h
  · exact target_of_loadFiles h

/-- Imports one module of a package. -/
def takeModule (imp : Importer) (name : String) (t : LoadedTarget) : Loads LoadedTarget := do
  match ← Loads.part (imp.importModule name) with
  | .ok h => return t.addModule h
  | .error f => do
    Loads.report (skipLine t.target.text name f)
    return t.addFailure name

/-- Imports a package once more and loads the modules below it. -/
def enterPackage (imp : Importer) (depth : Nat) (name : String) (isPackage : Bool)
    (t : LoadedTarget) : Loads LoadedTarget := do
  if isPackage then
    match ← Loads.part (imp.importModule name) with
    | .ok h => imp.loadBelow depth name h t
    | .error _ => do
      Loads.report (skipPackageLine t.target.text name)
      return t.addFailure name
  else return t

/-- The words of a package are loaded one after the other, each with all below it. -/
theorem loadWords_cons (imp : Importer) (depth : Nat) (owner : String) (t : LoadedTarget)
    (word : String) (isPackage : Bool) (rest : List (String × Bool)) :
    imp.loadWords depth owner t ((word, isPackage) :: rest) = (do
      let t ← imp.takeModule (owner ++ "." ++ word) t
      let t ← imp.enterPackage depth (owner ++ "." ++ word) isPackage t
      imp.loadWords depth owner t rest) := by
  have hbelow : ∀ t : LoadedTarget, (do
      if isPackage then
        match ← Loads.part (imp.importModule (owner ++ "." ++ word)) with
        | .ok h =>
          let t ← imp.loadBelow depth (owner ++ "." ++ word) h t
          imp.loadWords depth owner t rest
        | .error _ => do
          Loads.report (skipPackageLine t.target.text (owner ++ "." ++ word))
          imp.loadWords depth owner (t.addFailure (owner ++ "." ++ word)) rest
      else imp.loadWords depth owner t rest) =
      (imp.enterPackage depth (owner ++ "." ++ word) isPackage t >>= fun t =>
        imp.loadWords depth owner t rest) := by
    intro t
    unfold enterPackage
    cases isPackage with
    | false => exact (pure_bind t fun t => imp.loadWords depth owner t rest).symm
    | true =>
      simp only [if_true, bind_assoc]
      refine bind_congr fun result => ?_
      cases result with
      | ok h => rfl
      | error f => simp only [bind_assoc, pure_bind]
  rw [loadWords]
  unfold takeModule
  rw [bind_assoc]
  refine bind_congr fun result => ?_
  cases result with
  | ok h =>
    simp only [pure_bind]
    exact hbelow _
  | error f =>
    simp only [bind_assoc, pure_bind]
    exact bind_congr fun _ => hbelow _

/-- So does taking a module of a package. -/
theorem target_of_takeModule {name : String} (h : Gives (imp.takeModule name t) p l q) :
    l.target = t.target := by
  unfold takeModule at h
  obtain ⟨result, r, -, h⟩ := h.of_bind
  cases result with
  | ok handle =>
    obtain ⟨rfl, -⟩ := (gives_pure _ _).unique h
    rfl
  | error f =>
    obtain ⟨-, r', -, h⟩ := h.of_bind
    obtain ⟨rfl, -⟩ := (gives_pure _ _).unique h
    rfl

/-- So does going into a package, if its modules do. -/
theorem target_of_enterPackage {depth : Nat} {name : String} {isPackage : Bool}
    (hbelow : ∀ handle p l q, Gives (imp.loadBelow depth name handle t) p l q → l.target = t.target)
    (h : Gives (imp.enterPackage depth name isPackage t) p l q) : l.target = t.target := by
  unfold enterPackage at h
  cases isPackage with
  | false =>
    obtain ⟨rfl, -⟩ := (gives_pure t p).unique h
    rfl
  | true =>
    obtain ⟨result, r, -, h⟩ := h.of_bind
    cases result with
    | ok handle => exact hbelow handle r l q h
    | error f =>
      obtain ⟨-, r', -, h⟩ := h.of_bind
      obtain ⟨rfl, -⟩ := (gives_pure _ _).unique h
      rfl

/-- The step over the words of one package, when the packages below it keep their target. -/
theorem target_of_loadWords {depth : Nat} {owner : String} {words : List (String × Bool)}
    (hbelow : ∀ owner handle t p l q, Gives (imp.loadBelow depth owner handle t) p l q →
      l.target = t.target)
    (h : Gives (imp.loadWords depth owner t words) p l q) : l.target = t.target := by
  induction words generalizing t p with
  | nil =>
    rw [loadWords] at h
    obtain ⟨rfl, -⟩ := (gives_pure t p).unique h
    rfl
  | cons entry rest ih =>
    obtain ⟨word, isPackage⟩ := entry
    rw [loadWords_cons] at h
    obtain ⟨taken, r, htaken, h⟩ := h.of_bind
    obtain ⟨entered, u, hentered, h⟩ := h.of_bind
    calc
      l.target = entered.target := ih h
      _ = taken.target := target_of_enterPackage (fun _ _ _ _ => hbelow _ _ _ _ _ _) hentered
      _ = t.target := target_of_takeModule htaken

theorem target_of_loadBelow {depth : Nat} {owner : String} {handle : ModuleHandle}
    (h : Gives (imp.loadBelow depth owner handle t) p l q) : l.target = t.target := by
  induction depth generalizing owner handle t p l q with
  | zero =>
    rw [loadBelow] at h
    obtain ⟨rfl, -⟩ := (gives_pure t p).unique h
    rfl
  | succ depth ih =>
    rw [loadBelow] at h
    obtain ⟨r, u, -, h⟩ := h.of_bind
    exact target_of_loadWords (fun _ _ _ _ _ _ => ih) h

/-- What is loaded for a target is kept with it. -/
theorem target_of_loadTarget {target : Target} (h : Gives (imp.loadTarget target) p l q) :
    l.target = target := by
  have hpackage : Gives (imp.loadPackage target) p l q → l.target = target := by
    intro h
    unfold loadPackage at h
    obtain ⟨result, r, -, h⟩ := h.of_bind
    cases result with
    | error f => cases h
    | ok handle =>
      obtain ⟨s, u, -, h⟩ := h.of_bind
      dsimp only at h
      split at h
      · obtain ⟨rfl, -⟩ := (gives_pure _ _).unique h
        rfl
      · exact target_of_loadBelow h
  unfold loadTarget at h
  split at h
  · exact target_of_loadDirectory h
  · obtain ⟨result, r, -, h⟩ := h.of_bind
    cases result with
    | error f => cases h
    | ok handle =>
      obtain ⟨rfl, -⟩ := (gives_pure _ _).unique h
      rfl
  · exact hpackage h

end Importer

namespace Catalog

variable {imp : Importer} {x : String} {before after : List String} {catalog : Catalog}

/-- The entries that are not blank. -/
theorem requested_append (before after : List String) :
    requested (before ++ after) = requested before ++
      ((after.filter fun text => !Text.allBlank text).removeAll
        (before.filter fun text => !Text.allBlank text)).eraseDups := by
  unfold requested
  rw [List.filter_append, List.eraseDups_append]

theorem requested_insert_blank (h : Text.allBlank x = true) :
    requested (before ++ x :: after) = requested (before ++ after) := by
  unfold requested
  rw [List.filter_append, List.filter_append, List.filter_cons_of_neg (by simp [h])]

theorem requested_insert_repeated (h : x ∈ before) :
    requested (before ++ x :: after) = requested (before ++ after) := by
  by_cases hblank : Text.allBlank x = true
  · exact requested_insert_blank hblank
  · rw [requested_append, requested_append, List.filter_cons_of_pos (by simpa using hblank)]
    unfold List.removeAll
    rw [List.filter_cons_of_neg (by simp [h, hblank])]

/-- A new entry stands behind those before it, and is left out behind it. -/
theorem requested_insert (hblank : Text.allBlank x = false) (hbefore : x ∉ before) :
    requested (before ++ x :: after) = requested before ++ x ::
      (((after.filter (· != x)).filter fun text => !Text.allBlank text).removeAll
        (before.filter fun text => !Text.allBlank text)).eraseDups := by
  rw [requested_append, List.filter_cons_of_pos (by simp [hblank])]
  unfold List.removeAll
  rw [List.filter_cons_of_pos (by simp [hbefore]), List.eraseDups_cons]
  congr 3
  simp only [List.filter_filter]
  refine List.filter_congr fun y _ => ?_
  rw [← bne, Bool.and_comm (y != x), Bool.and_assoc]

theorem exists_requested_insert (hblank : Text.allBlank x = false) (hbefore : x ∉ before)
    (hafter : x ∉ after) :
    ∃ rest, requested (before ++ x :: after) = requested before ++ x :: rest ∧
      requested (before ++ after) = requested before ++ rest := by
  have hsame : after.filter (· != x) = after := by
    refine List.filter_eq_self.2 fun y hy => ?_
    have hne : y ≠ x := fun h => hafter (h ▸ hy)
    simpa using hne
  rw [requested_insert hblank hbefore, requested_append, hsame]
  exact ⟨_, rfl, rfl⟩

/-- Later repetitions of an entry do not count. -/
theorem requested_filter_ne (hblank : Text.allBlank x = false) (hbefore : x ∉ before) :
    requested (before ++ x :: after) = requested (before ++ x :: after.filter (· != x)) := by
  rw [requested_insert hblank hbefore, requested_insert hblank hbefore,
    List.filter_eq_self.2 fun y hy => (List.mem_filter.1 hy).2]

/-- The targets that are kept of those found so far and of further ones. -/
def addDistinct (found targets : List Target) : List Target :=
  targets.foldl (fun found t =>
    if (found.map (·.origin)).contains t.origin then found else t :: found) found

theorem addDistinct_cons (found : List Target) (t : Target) (rest : List Target) :
    addDistinct found (t :: rest) =
      if t.origin ∈ found.map (·.origin) then addDistinct found rest
      else addDistinct (t :: found) rest := by
  unfold addDistinct
  rw [List.foldl_cons]
  simp only [List.contains_iff_mem]
  split <;> rfl

/-- The places of all targets are kept. -/
theorem mem_origins_addDistinct {origin : ModuleOrigin} {found targets : List Target} :
    origin ∈ (addDistinct found targets).map (·.origin) ↔
      origin ∈ found.map (·.origin) ∨ origin ∈ targets.map (·.origin) := by
  induction targets generalizing found with
  | nil => simp [addDistinct]
  | cons t rest ih =>
    rw [addDistinct_cons]
    split
    · rename_i hold
      rw [ih, List.map_cons, List.mem_cons]
      constructor
      · rintro (h | h)
        · exact .inl h
        · exact .inr (.inr h)
      · rintro (h | rfl | h)
        · exact .inl h
        · exact .inl hold
        · exact .inr h
    · rw [ih, List.map_cons, List.map_cons, List.mem_cons, List.mem_cons]
      tauto

/-- A target of a place that was found before does not count. -/
theorem distinctTargets_insert {found more : List Target} {t : Target}
    (h : t.origin ∈ found.map (·.origin)) :
    distinctTargets (found ++ t :: more) = distinctTargets (found ++ more) := by
  have hsplit : ∀ rest, distinctTargets (found ++ rest) =
      (addDistinct (addDistinct [] found) rest).reverse := by
    intro rest
    unfold distinctTargets addDistinct
    rw [List.foldl_append]
  rw [hsplit, hsplit, addDistinct_cons, if_pos (mem_origins_addDistinct.2 (.inr h))]

/-- Loads the targets that were found. -/
def complete (imp : Importer) (catalog : Catalog) (targets : List Target) :
    Loads (Catalog × List LoadedTarget) := do
  let loaded ← (catalog.missing targets).mapM imp.loadTarget
  let catalog := catalog.extend loaded
  return (catalog, catalog.select targets)

theorem load_eq (imp : Importer) (catalog : Catalog) (texts : List String) :
    load imp catalog texts = ((requested texts).mapM imp.findTarget >>= complete imp catalog) :=
  rfl

theorem complete_congr {targets others : List Target}
    (h : distinctTargets targets = distinctTargets others) :
    complete imp catalog targets = complete imp catalog others := by
  unfold complete missing select
  rw [h]

end Catalog

namespace Importer

variable {imp : Importer} {x : String} {before after : List String} {p : Progress}

/-- Behind some entries a text is found as the target of one of them, and nothing is imported for
it. -/
def AddsNothing (imp : Importer) (p : Progress) (before : List String) (x : String) : Prop :=
  ∀ found q, Gives ((Catalog.requested before).mapM imp.findTarget) p found q →
    ∃ t, Gives (imp.findTarget x) q t q ∧ t.origin ∈ found.map (·.origin)

/-- A text adds nothing behind some entries, and nothing either where it stands once more. -/
def IsRedundant (imp : Importer) (p : Progress) (before : List String) (x : String)
    (after : List String) : Prop :=
  imp.AddsNothing p before x ∧ ∀ between rest, after = between ++ x :: rest → x ∉ between →
    imp.AddsNothing p (before ++ between) x

/-- A text that is looked up adds nothing to what is loaded. -/
theorem AddsNothing.load_run (h : imp.AddsNothing p before x) (hblank : Text.allBlank x = false)
    (hbefore : x ∉ before) (hafter : x ∉ after) (catalog : Catalog) :
    (Catalog.load imp catalog (before ++ x :: after)).run.run p =
      (Catalog.load imp catalog (before ++ after)).run.run p := by
  obtain ⟨rest, hmore, hless⟩ := Catalog.exists_requested_insert hblank hbefore hafter
  rw [Catalog.load_eq, Catalog.load_eq, hmore, hless, List.mapM_append, List.mapM_append,
    List.mapM_cons]
  simp only [bind_assoc, pure_bind]
  refine run_bind_congr fun found q hfound => ?_
  obtain ⟨t, hfind, horigin⟩ := h found q hfound
  rw [hfind.run_bind]
  refine run_bind_congr fun more r _ => ?_
  rw [Catalog.complete_congr (Catalog.distinctTargets_insert horigin)]

/-- Without a redundant text, a request loads the same. -/
theorem IsRedundant.load_run (h : imp.IsRedundant p before x after) (catalog : Catalog) :
    (Catalog.load imp catalog (before ++ x :: after)).run.run p =
      (Catalog.load imp catalog (before ++ after)).run.run p := by
  have hcongr : ∀ {texts others}, Catalog.requested texts = Catalog.requested others →
      Catalog.load imp catalog texts = Catalog.load imp catalog others := by
    intro texts others hsame
    rw [Catalog.load_eq, Catalog.load_eq, hsame]
  by_cases hblank : Text.allBlank x = true
  · rw [hcongr (Catalog.requested_insert_blank hblank)]
  by_cases hbefore : x ∈ before
  · rw [hcongr (Catalog.requested_insert_repeated hbefore)]
  rw [Bool.not_eq_true] at hblank
  by_cases hafter : x ∈ after
  · obtain ⟨between, rest, rfl, hbetween⟩ := List.eq_append_cons_of_mem hafter
    have hfilter : (between ++ x :: rest).filter (· != x) = between ++ rest.filter (· != x) := by
      rw [List.filter_append, List.filter_cons_of_neg (by simp), List.filter_eq_self.2]
      exact fun y hy => bne_iff_ne.2 fun hyx => hbetween (hyx ▸ hy)
    have hnew : x ∉ before ++ between := by simp [hbefore, hbetween]
    have hrest : x ∉ rest.filter (· != x) := by simp
    rw [hcongr (Catalog.requested_filter_ne hblank hbefore), hfilter,
      h.1.load_run hblank hbefore (by simp [hbetween]), ← List.append_assoc, ← List.append_assoc,
      hcongr (Catalog.requested_filter_ne hblank hnew),
      (h.2 between rest rfl hbetween).load_run hblank hnew hrest]
  · exact h.1.load_run hblank hbefore hafter catalog

/-- A text is written like a path and names a target, whatever is imported. -/
structure NamesPath (imp : Importer) (text : String) (t : Target) : Prop where
  notBlank : Text.allBlank text = false
  looks : imp.looksLikePath (Text.trim text) = .ok true
  found : imp.findPath (Text.trim text) = .ok t

theorem NamesPath.finds {text : String} {t : Target} (h : imp.NamesPath text t) :
    imp.Finds text t where
  notBlank := h.notBlank
  gives p := by
    unfold findTarget
    dsimp only
    rw [h.looks]
    refine Gives.bind (gives_pure true p) ?_
    rw [if_pos rfl, h.found]
    exact gives_mk rfl

/-- A second text for a target adds nothing. -/
theorem Finds.addsNothing {y : String} {t t' : Target} (hx : imp.Finds x t)
    (hy : imp.Finds y t') (hmem : y ∈ before) (horigin : t.origin = t'.origin) :
    imp.AddsNothing p before x := by
  intro found q hfound
  refine ⟨t, hx.gives q, List.mem_map.2 ⟨t', ?_, horigin.symm⟩⟩
  have hrequested : y ∈ Catalog.requested before :=
    List.mem_eraseDups.2 (List.mem_filter.2 ⟨hmem, by simp [hy.notBlank]⟩)
  have hall : List.Forall₂ (fun text target => text = y → target = t')
      (Catalog.requested before) found := by
    refine forall₂_of_mapM hfound fun text s target u htarget htext => ?_
    subst htext
    exact (htarget.unique (hy.gives s)).1
  obtain ⟨target, htarget, hsame⟩ := exists_right_of_mem hall hrequested
  exact hsame rfl ▸ htarget

/-- A path to the place of an earlier path is redundant. -/
theorem Finds.isRedundant {y : String} {t t' : Target} (hx : imp.Finds x t)
    (hy : imp.Finds y t') (hmem : y ∈ before) (horigin : t.origin = t'.origin) :
    imp.IsRedundant p before x after :=
  ⟨hx.addsNothing hy hmem horigin, fun between _ _ _ =>
    hx.addsNothing hy (List.mem_append_left between hmem) horigin⟩

end Importer

namespace Catalog

variable {imp : Importer} {texts : List String} {catalog catalog' : Catalog}
  {targets : List Target} {loaded : List LoadedTarget} {p q : Progress}

/-- All targets of a request are in the catalog afterwards. -/
theorem missing_of_complete (h : Gives (complete imp catalog targets) p (catalog', loaded) q) :
    missing catalog' targets = [] ∧ loaded = select catalog' targets := by
  unfold complete at h
  obtain ⟨new, r, hnew, h⟩ := h.of_bind
  obtain ⟨hresult, -⟩ := (gives_pure _ _).unique h
  cases hresult
  refine ⟨List.filter_eq_nil_iff.2 fun t ht => ?_, rfl⟩
  rw [Bool.not_eq_true, Option.isNone_eq_false_iff]
  unfold extend
  rw [List.lookup_append, Option.isSome_or, Bool.or_eq_true]
  by_cases hold : (catalog.lookup t.origin).isSome = true
  · exact .inl hold
  · right
    have hall : List.Forall₂ (fun target l => l.target = target) (catalog.missing targets) new :=
      forall₂_of_mapM hnew fun target s l u hl => Importer.target_of_loadTarget hl
    have hmissing : t ∈ catalog.missing targets :=
      List.mem_filter.2 ⟨ht, Option.isNone_iff_eq_none.2 (Option.not_isSome_iff_eq_none.1 hold)⟩
    obtain ⟨l, hl, htarget⟩ := exists_right_of_mem hall hmissing
    rw [List.lookup_isSome_iff]
    exact ⟨(l.target.origin, l), List.mem_map_of_mem hl, by simp [htarget]⟩

/-- When the same targets are found again, nothing is loaded. -/
theorem load_again (hfound : Gives ((requested texts).mapM imp.findTarget) p targets p)
    {p₁ : Progress} (h : Gives (complete imp catalog targets) p₁ (catalog', loaded) q) :
    Gives (load imp catalog' texts) p (catalog', loaded) p := by
  obtain ⟨hmissing, rfl⟩ := missing_of_complete h
  rw [load_eq]
  refine hfound.bind ?_
  unfold complete
  rw [hmissing]
  refine Gives.bind (gives_pure [] p) ?_
  have hsame : catalog'.extend [] = catalog' := List.append_nil _
  simp only [hsame]
  exact gives_pure _ p

/-- A request of paths that was loaded is loaded again. -/
theorem load_again_of_paths
    (hpaths : ∀ text ∈ texts, Text.allBlank text = true ∨ ∃ t, imp.Finds text t)
    (h : Gives (load imp catalog texts) p (catalog', loaded) q) (r : Progress) :
    Gives (load imp catalog' texts) r (catalog', loaded) r := by
  obtain ⟨targets, htargets⟩ : ∃ targets, ∀ s,
      Gives ((requested texts).mapM imp.findTarget) s targets s := by
    refine exists_gives_mapM fun text htext => ?_
    have hmem := List.mem_filter.1 (List.mem_eraseDups.1 htext)
    obtain hblank | ⟨t, ht⟩ := hpaths text hmem.1
    · simp [hblank] at hmem
    · exact ⟨t, ht.gives⟩
  rw [load_eq] at h
  obtain ⟨found, s, hfound, h⟩ := h.of_bind
  obtain ⟨rfl, rfl⟩ := (htargets p).unique hfound
  exact load_again (htargets r) h

end Catalog

end TypeExport

import TypeExport.Proofs.Scan.FirstIndex

/-!
# Loads on one catalog

A load finds all targets of its request, then loads those of new places, and extends the catalog only
when all of them are there.  So a load that fails leaves the catalog alone, and over any number of
loads a place keeps the target that was loaded for it first.
-/

namespace TypeExport

namespace Catalog

variable {imp : Importer} {catalog catalog' : Catalog} {found targets : List Target}
  {new loaded : List LoadedTarget} {p q : Progress} {origin : ModuleOrigin}

/-- The places of targets, each where it comes up first. -/
def places (targets : List Target) : List ModuleOrigin :=
  (targets.map (·.origin)).eraseDups

/-- The targets that are kept of further ones have the places that did not come up before. -/
theorem origins_addDistinct (found targets : List Target) :
    (addDistinct found targets).reverse.map (·.origin) = found.reverse.map (·.origin) ++
      ((targets.map (·.origin)).removeAll (found.map (·.origin))).eraseDups := by
  induction targets generalizing found with
  | nil => simp [addDistinct, List.removeAll]
  | cons t rest ih =>
    rw [addDistinct_cons, List.map_cons]
    by_cases hold : t.origin ∈ found.map (·.origin)
    · have hskip : (t.origin :: rest.map (·.origin)).removeAll (found.map (·.origin)) =
          (rest.map (·.origin)).removeAll (found.map (·.origin)) := by
        unfold List.removeAll
        rw [List.filter_cons_of_neg (by simpa using hold)]
      rw [if_pos hold, ih, hskip]
    · have hnew : (t.origin :: rest.map (·.origin)).removeAll (found.map (·.origin)) =
          t.origin :: (rest.map (·.origin)).removeAll (found.map (·.origin)) := by
        unfold List.removeAll
        rw [List.filter_cons_of_pos (by simpa using hold)]
      have hrest : ((rest.map (·.origin)).removeAll (found.map (·.origin))).filter
            (fun origin => !origin == t.origin) =
          (rest.map (·.origin)).removeAll ((t :: found).map (·.origin)) := by
        unfold List.removeAll
        rw [List.filter_filter]
        refine List.filter_congr fun origin _ => ?_
        rw [List.map_cons, List.elem_cons]
        cases origin == t.origin <;> rfl
      calc (if t.origin ∈ found.map (·.origin) then addDistinct found rest
            else addDistinct (t :: found) rest).reverse.map (·.origin)
        _ = (t :: found).reverse.map (·.origin) ++
            ((rest.map (·.origin)).removeAll ((t :: found).map (·.origin))).eraseDups := by
          rw [if_neg hold, ih]
        _ = found.reverse.map (·.origin) ++ (t.origin ::
            ((rest.map (·.origin)).removeAll ((t :: found).map (·.origin))).eraseDups) := by
          rw [List.reverse_cons, List.map_append, List.append_assoc]
          rfl
        _ = found.reverse.map (·.origin) ++
            ((t.origin :: rest.map (·.origin)).removeAll (found.map (·.origin))).eraseDups := by
          rw [hnew, List.eraseDups_cons, hrest]

theorem origins_distinctTargets (targets : List Target) :
    (distinctTargets targets).map (·.origin) = places targets := by
  have h := origins_addDistinct [] targets
  have hall : (targets.map (·.origin)).removeAll [] = targets.map (·.origin) :=
    List.filter_eq_self.2 fun origin _ => rfl
  rw [List.map_nil, hall] at h
  exact h

/-- The targets that are loaded are those of new places. -/
theorem origins_missing (catalog : Catalog) (targets : List Target) :
    (catalog.missing targets).map (·.origin) =
      (places targets).filter fun origin => (catalog.lookup origin).isNone := by
  rw [← origins_distinctTargets, List.filter_map]
  rfl

/-- Every place occurs once, and a target stands under its own. -/
structure IsKeyed (catalog : Catalog) : Prop where
  nodup : (catalog.map (·.1)).Nodup
  own : ∀ origin t, catalog.lookup origin = some t → t.target.origin = origin

/-- What a load makes of a catalog.  Of the targets `found`, those of new places are loaded; they come
behind the catalog, which keeps what it has.  One target is returned for each place, and it is the one
in the catalog. -/
structure Extends (catalog : Catalog) (found : List Target) (new loaded : List LoadedTarget)
    (catalog' : Catalog) : Prop where
  targets : new.map (·.target) = catalog.missing found
  added : new.map (·.target.origin) =
    (places found).filter fun origin => (catalog.lookup origin).isNone
  extended : catalog' = catalog ++ new.map fun t => (t.target.origin, t)
  returned : loaded.map (·.target.origin) = places found
  cached : ∀ t ∈ loaded, catalog'.lookup t.target.origin = some t
  kept : ∀ origin t, catalog.lookup origin = some t → catalog'.lookup origin = some t

theorem lookup_extend_of_lookup {t : LoadedTarget} (h : catalog.lookup origin = some t)
    (new : List LoadedTarget) : (catalog.extend new).lookup origin = some t := by
  unfold extend
  rw [List.lookup_append, h, Option.some_or]

theorem target_of_lookup_new {t : LoadedTarget}
    (h : (new.map fun t => (t.target.origin, t)).lookup origin = some t) :
    t.target.origin = origin := by
  obtain ⟨before, after, hentries, -⟩ := List.lookup_eq_some_iff.1 h
  have hmem : (origin, t) ∈ new.map fun t => (t.target.origin, t) := by
    rw [hentries]
    simp
  obtain ⟨u, -, hu⟩ := List.mem_map.1 hmem
  obtain ⟨rfl, rfl⟩ := Prod.mk.inj hu
  rfl

theorem map_target_of_forall₂ (h : List.Forall₂ (fun target l => l.target = target) targets new) :
    new.map (·.target) = targets := by
  induction h with
  | nil => rfl
  | cons hfirst _ ih => rw [List.map_cons, hfirst, ih]

/-- New places keep a catalog keyed. -/
theorem IsKeyed.extend (h : catalog.IsKeyed) (hnew : new.map (·.target) = catalog.missing targets) :
    (catalog.extend new).IsKeyed := by
  have horigins : new.map (·.target.origin) =
      (places targets).filter fun origin => (catalog.lookup origin).isNone := by
    rw [← origins_missing, ← hnew, List.map_map]
    rfl
  have hkeys : (catalog.extend new).map (·.1) =
      catalog.map (·.1) ++ new.map (·.target.origin) := by
    unfold Catalog.extend
    rw [List.map_append, List.map_map]
    rfl
  refine ⟨?_, fun origin t hlookup => ?_⟩
  · rw [hkeys, horigins, List.nodup_append]
    refine ⟨h.nodup, (nodup_eraseDups _).filter _, ?_⟩
    -- a place that the catalog has is not among those that are missing
    rintro origin hold _ hmissing rfl
    obtain ⟨entry, hentry, rfl⟩ := List.mem_map.1 hold
    have hnone := Option.isNone_iff_eq_none.1 (List.mem_filter.1 hmissing).2
    have hne := List.lookup_eq_none_iff.1 hnone entry hentry
    simp at hne
  · unfold Catalog.extend at hlookup
    rw [List.lookup_append, Option.or_eq_some_iff] at hlookup
    obtain hold | ⟨-, hlast⟩ := hlookup
    · exact h.own origin t hold
    · exact target_of_lookup_new hlast

theorem origins_lookups (h : catalog.IsKeyed)
    (hthere : ∀ t ∈ targets, ∃ l, catalog.lookup t.origin = some l) :
    (targets.filterMap fun t => catalog.lookup t.origin).map (·.target.origin) =
      targets.map (·.origin) := by
  induction targets with
  | nil => rfl
  | cons t rest ih =>
    obtain ⟨l, hl⟩ := hthere t List.mem_cons_self
    rw [List.filterMap_cons, hl, List.map_cons, List.map_cons, h.own _ _ hl,
      ih fun t ht => hthere t (List.mem_cons_of_mem _ ht)]

/-- Targets that are all there are returned one for each place. -/
theorem origins_select (h : catalog.IsKeyed) (hmissing : catalog.missing found = []) :
    (catalog.select found).map (·.target.origin) = places found := by
  rw [← origins_distinctTargets]
  refine origins_lookups h fun t ht => ?_
  by_contra hnone
  rw [← Option.isSome_iff_exists, Option.not_isSome_iff_eq_none] at hnone
  have hmem : t ∈ catalog.missing found :=
    List.mem_filter.2 ⟨ht, Option.isNone_iff_eq_none.2 hnone⟩
  rw [hmissing] at hmem
  exact List.not_mem_nil hmem

/-- A load that has found its targets and succeeds. -/
theorem extends_of_complete (hkeyed : catalog.IsKeyed)
    (h : Gives (complete imp catalog found) p (catalog', loaded) q) :
    catalog'.IsKeyed ∧ ∃ new, Gives ((catalog.missing found).mapM imp.loadTarget) p new q ∧
      catalog.Extends found new loaded catalog' := by
  obtain ⟨hmissing, hselect⟩ := missing_of_complete h
  unfold complete at h
  obtain ⟨new, r, hnew, h⟩ := h.of_bind
  obtain ⟨hresult, rfl⟩ := (gives_pure _ _).unique h
  cases hresult
  have hall : List.Forall₂ (fun target l => l.target = target) (catalog.missing found) new :=
    forall₂_of_mapM hnew fun target s l u hl => Importer.target_of_loadTarget hl
  have htargets := map_target_of_forall₂ hall
  refine ⟨hkeyed.extend htargets, new, hnew, htargets, ?_, rfl, ?_, fun t ht => ?_,
    fun origin t ht => lookup_extend_of_lookup ht new⟩
  · rw [← origins_missing, ← htargets, List.map_map]
    rfl
  · exact origins_select (hkeyed.extend htargets) hmissing
  · obtain ⟨target, -, hlookup⟩ := List.mem_filterMap.1 ht
    rw [(hkeyed.extend htargets).own _ _ hlookup]
    exact hlookup

theorem gives_load_iff {texts : List String} :
    Gives (load imp catalog texts) p (catalog', loaded) q ↔ ∃ found r,
      Gives ((requested texts).mapM imp.findTarget) p found r ∧
      Gives (complete imp catalog found) r (catalog', loaded) q := by
  rw [load_eq]
  constructor
  · exact fun h => h.of_bind
  · rintro ⟨found, r, hfound, hcomplete⟩
    exact hfound.bind hcomplete

end Catalog

/-- One load of a session. -/
structure LoadCall where
  importer : Importer
  texts : List String
  before : Session

namespace LoadCall

variable {call : LoadCall} {loaded : List LoadedTarget} {e : ScanError}

def result (call : LoadCall) : Except ScanError (List LoadedTarget) :=
  ((Scans.load call.importer call.texts).run.run call.before).1

def after (call : LoadCall) : Session :=
  ((Scans.load call.importer call.texts).run.run call.before).2

/-- The targets that are found for the request of a load, the new ones as they are loaded, with which
the load ends, and what becomes of the catalog. -/
def Completes (call : LoadCall) (loaded : List LoadedTarget) : Prop :=
  ∃ found new p,
    Gives ((Catalog.requested call.texts).mapM call.importer.findTarget) call.before.progress found
      p ∧
    Gives ((call.before.catalog.missing found).mapM call.importer.loadTarget) p new
      call.after.progress ∧
    call.before.catalog.Extends found new loaded call.after.catalog

/-- A load that fails leaves the catalog alone. -/
theorem catalog_of_error (h : call.result = .error e) :
    call.after.catalog = call.before.catalog := by
  unfold result at h
  unfold after
  rw [Scans.load_run] at h ⊢
  cases hrun : (Catalog.load call.importer call.before.catalog call.texts).run.run
    call.before.progress with
  | mk outcome p =>
    rw [hrun] at h
    cases outcome with
    | error e => rfl
    | ok pair => cases h

/-- A load that succeeds keeps the catalog keyed. -/
theorem completes_of_ok (hkeyed : call.before.catalog.IsKeyed) (h : call.result = .ok loaded) :
    call.after.catalog.IsKeyed ∧ call.Completes loaded := by
  have hload : Gives (Catalog.load call.importer call.before.catalog call.texts)
      call.before.progress (call.after.catalog, loaded) call.after.progress := by
    unfold result at h
    unfold after Gives
    rw [Scans.load_run] at h ⊢
    cases hrun : (Catalog.load call.importer call.before.catalog call.texts).run.run
      call.before.progress with
    | mk outcome p =>
      rw [hrun] at h
      cases outcome with
      | error e => cases h
      | ok pair =>
        cases h
        rfl
  obtain ⟨found, p, hfound, hcomplete⟩ := Catalog.gives_load_iff.1 hload
  obtain ⟨hafter, new, hnew, hextends⟩ := Catalog.extends_of_complete hkeyed hcomplete
  exact ⟨hafter, found, new, p, hfound, hnew, hextends⟩

theorem exists_ok_of_origins {origins : List ModuleOrigin}
    (h : call.result.toOption.map (·.map (·.target.origin)) = some origins) :
    ∃ loaded, call.result = .ok loaded ∧ loaded.map (·.target.origin) = origins := by
  cases hresult : call.result with
  | error e =>
    rw [hresult] at h
    cases h
  | ok loaded =>
    rw [hresult] at h
    exact ⟨loaded, rfl, Option.some.inj h⟩

/-- Both outcomes of a load keep the catalog keyed and keep what is in it. -/
theorem step (hkeyed : call.before.catalog.IsKeyed) :
    call.after.catalog.IsKeyed ∧ ∀ origin t, call.before.catalog.lookup origin = some t →
      call.after.catalog.lookup origin = some t := by
  cases h : call.result with
  | error e =>
    rw [catalog_of_error h]
    exact ⟨hkeyed, fun _ _ => id⟩
  | ok loaded =>
    obtain ⟨hafter, found, new, p, -, -, hextends⟩ := completes_of_ok hkeyed h
    exact ⟨hafter, hextends.kept⟩

end LoadCall

/-- Loads one after the other on one catalog, which is empty at first, and the catalog that they
leave.  All else may change between two loads. -/
inductive LoadHistory : List LoadCall → Catalog → Prop where
  | start : LoadHistory [] []
  | next {calls : List LoadCall} {catalog : Catalog} {call : LoadCall}
    (earlier : LoadHistory calls catalog) (hbefore : call.before.catalog = catalog) :
    LoadHistory (calls ++ [call]) call.after.catalog

namespace LoadHistory

variable {calls : List LoadCall} {catalog : Catalog}

/-- What a history keeps: the catalog is keyed, it was so before every load, and what was ever
returned is still in it. -/
theorem invariant (h : LoadHistory calls catalog) : catalog.IsKeyed ∧
    ∀ call ∈ calls, call.before.catalog.IsKeyed ∧
      ∀ loaded, call.result = .ok loaded → ∀ t ∈ loaded,
        catalog.lookup t.target.origin = some t := by
  induction h with
  | start => exact ⟨⟨List.nodup_nil, fun _ _ h => by cases h⟩, fun _ h => (List.not_mem_nil h).elim⟩
  | @next calls catalog call earlier hbefore ih =>
    subst hbefore
    obtain ⟨hkeyed, hcalls⟩ := ih
    obtain ⟨hafter, hkept⟩ := call.step hkeyed
    refine ⟨hafter, fun c hc => ?_⟩
    rcases List.mem_append.1 hc with hold | hlast
    · obtain ⟨hbefore, hreturned⟩ := hcalls c hold
      exact ⟨hbefore, fun loaded hok t ht => hkept _ _ (hreturned loaded hok t ht)⟩
    · rw [List.mem_singleton.1 hlast]
      refine ⟨hkeyed, fun loaded hok t ht => ?_⟩
      obtain ⟨-, found, new, p, -, -, hextends⟩ := LoadCall.completes_of_ok hkeyed hok
      exact hextends.cached t ht

/-- Two loads that succeed return the same target for one place. -/
theorem returns_same (h : LoadHistory calls catalog) :
    calls.Pairwise fun call later => ∀ loaded loaded', call.result = .ok loaded →
      later.result = .ok loaded' → ∀ t ∈ loaded, ∀ u ∈ loaded',
        u.target.origin = t.target.origin → u = t := by
  induction h with
  | start => exact .nil
  | @next calls catalog call earlier hbefore ih =>
    subst hbefore
    obtain ⟨hkeyed, hcalls⟩ := earlier.invariant
    rw [List.pairwise_append]
    refine ⟨ih, List.pairwise_singleton _ _, fun old hold last hlast loaded loaded' hok hok' t ht u hu
      horigin => ?_⟩
    rw [List.mem_singleton.1 hlast] at hok'
    -- what the older load has returned is still in the catalog when the later one begins
    have holder := (hcalls old hold).2 loaded hok t ht
    obtain ⟨-, found, new, p, -, -, hextends⟩ := LoadCall.completes_of_ok hkeyed hok'
    have hlater := hextends.cached u hu
    rw [horigin, hextends.kept _ _ holder] at hlater
    exact (Option.some.inj hlater).symm

/-- Whatever is requested and wherever loads fail: a load that fails leaves the catalog alone, one
that succeeds extends it by the targets of new places alone, and for each place all loads return
the target that was loaded for it first. -/
theorem keeps_catalog (h : LoadHistory calls catalog) :
    (∀ call ∈ calls, ∀ e, call.result = .error e →
      call.after.catalog = call.before.catalog) ∧
    (∀ call ∈ calls, ∀ loaded, call.result = .ok loaded → call.Completes loaded) ∧
    calls.Pairwise fun call later => ∀ loaded loaded', call.result = .ok loaded →
      later.result = .ok loaded' → ∀ t ∈ loaded, ∀ u ∈ loaded',
        u.target.origin = t.target.origin → u = t := by
  refine ⟨fun call _ e => LoadCall.catalog_of_error, fun call hcall loaded hok => ?_, h.returns_same⟩
  exact (LoadCall.completes_of_ok (h.invariant.2 call hcall).1 hok).2

/-- Two files with a class each, and one whose module fails. -/
def workshop : Importer :=
  .ofEntries [[]]
    [(["a.py"], .file (.ofStatements [.plainClass "A" true [] []])),
      (["b.py"], .file (.ofStatements [.plainClass "B" true [] []])),
      (["bad.py"], .file (.ofStatements [.raise "ValueError" "bad"]))]

/-- One file, spelled in two ways. -/
def firstLoad : LoadCall :=
  { importer := workshop, texts := ["a.py", " ", "./a.py"], before := .empty }

/-- A file that can be loaded, together with the one that cannot. -/
def failedLoad : LoadCall :=
  { importer := workshop, texts := ["b.py", "bad.py"], before := firstLoad.after }

def lastLoad : LoadCall :=
  { importer := workshop, texts := ["b.py", "a.py"], before := failedLoad.after }

theorem history_of_workshop :
    LoadHistory [firstLoad, failedLoad, lastLoad] lastLoad.after.catalog := by
  have hfirst : LoadHistory ([] ++ [firstLoad]) firstLoad.after.catalog := .next .start rfl
  have hsecond : LoadHistory ([firstLoad] ++ [failedLoad]) failedLoad.after.catalog := by
    refine .next hfirst ?_
    unfold failedLoad
    rfl
  refine .next hsecond ?_
  unfold lastLoad
  rfl

/-- The load that fails keeps nothing, and the last one returns what the first one has loaded. -/
theorem catalog_of_workshop :
    LoadHistory [firstLoad, failedLoad, lastLoad] lastLoad.after.catalog ∧
    failedLoad.after.catalog = firstLoad.after.catalog ∧
    ∃ a b, firstLoad.result = .ok [a] ∧ lastLoad.result = .ok [b, a] ∧
      lastLoad.after.catalog.map (·.1) = [.place ["a.py"], .place ["b.py"]] := by
  obtain ⟨herrors, hloads, hsame⟩ := history_of_workshop.keeps_catalog
  have hruns : firstLoad.result.toOption.map (·.map (·.target.origin)) = some [.place ["a.py"]] ∧
      failedLoad.result.toOption.isNone = true ∧
      lastLoad.result.toOption.map (·.map (·.target.origin)) =
        some [.place ["b.py"], .place ["a.py"]] ∧
      lastLoad.after.catalog.map (·.1) = [.place ["a.py"], .place ["b.py"]] := by
    decide +kernel
  obtain ⟨hfirst, hfailed, hlast, hplaces⟩ := hruns
  obtain ⟨loaded, hok, hplace⟩ := LoadCall.exists_ok_of_origins hfirst
  obtain ⟨loaded', hok', hplaces'⟩ := LoadCall.exists_ok_of_origins hlast
  obtain ⟨a, rfl, ha⟩ := List.map_eq_singleton_iff.1 hplace
  obtain ⟨b, rest, rfl, -, hrest⟩ := List.map_eq_cons_iff.1 hplaces'
  obtain ⟨c, rfl, hc⟩ := List.map_eq_singleton_iff.1 hrest
  have hagain : c = a := (List.pairwise_cons.1 hsame).1 lastLoad (by simp) _ _ hok hok' a (by simp)
    c (by simp) (hc.trans ha.symm)
  refine ⟨history_of_workshop, ?_, a, b, hok, hagain ▸ hok', hplaces⟩
  cases hresult : failedLoad.result with
  | ok loaded =>
    rw [hresult] at hfailed
    cases hfailed
  | error e => exact herrors failedLoad (by simp) e hresult

end LoadHistory

end TypeExport

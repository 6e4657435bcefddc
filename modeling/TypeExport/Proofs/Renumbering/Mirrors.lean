import TypeExport.Proofs.Action
import TypeExport.Proofs.Keyed
import TypeExport.Proofs.Renumbering.Description
import TypeExport.Proofs.Scan.Growth
import TypeExport.Scan.Loading

/-!
# Worlds with more in them

A world may hold what another one holds at other places, and more beside it.  What joins both worlds
keeps them so.
-/

namespace TypeExport

/-- Numbers that agree with `ρ` below `n` and lead all others behind. -/
def AgreesBelow (ρ : Nat ↪ Nat) (n : Nat) (σ : Nat ↪ Nat) : Prop :=
  (∀ i < n, σ i = ρ i) ∧ ∀ i, n ≤ i → ρ n ≤ σ i

/-- The module under its other number. -/
def ModuleHandle.renumber (τ : Nat ↪ Nat) : ModuleHandle → ModuleHandle
  | .outside name => .outside name
  | .inside index => .inside (τ index)

namespace World

/-- The second world has the classes and modules of the first one under the numbers that `ρ` and `τ`
give them.  What they say of classes does not depend on the numbers of those that the first world
does not have yet, and its next class and module are the next ones of the second world.  Further
classes of the second world are mapped on bases of their own, and further modules are not
registered. -/
structure Mirrors (ρ τ : Nat ↪ Nat) (w w' : World) : Prop where
  nextClass : ∀ k, ρ (w.classes.length + k) = w'.classes.length + k
  nextModule : ∀ k, τ (w.modules.length + k) = w'.modules.length + k
  class? : ∀ σ, AgreesBelow ρ w.classes.length σ → ∀ i,
    w'.classes[σ i]? = (w.classes[i]?).map (ClassInfo.renumber σ)
  module? : ∀ σ, AgreesBelow ρ w.classes.length σ → ∀ i,
    w'.modules[τ i]? = (w.modules[i]?).map (ImportedModule.renumber σ)
  lookup : ∀ name, w'.registry.lookup name = (w.registry.lookup name).map τ
  mappedOn : ∀ σ, AgreesBelow ρ w.classes.length σ → ∀ base,
    Relations.mappedOn w' (base.renumber σ) =
      (Relations.mappedOn w base).map (Prod.map (ClassRef.renumber σ) (Mapping.renumber σ))

end World

namespace Relations

theorem mappedOn_congr {w v : World} (h : w.classes = v.classes) (base : ClassRef) :
    mappedOn w base = mappedOn v base := by
  unfold mappedOn World.mapping? World.info?
  rw [h]

/-- A new class is the last of those mapped on its base. -/
theorem mappedOn_addClass (w : World) (info : ClassInfo) (base : ClassRef) :
    mappedOn (w.addClass info) base = mappedOn w base ++
      ((info.mapping.bind fun m =>
        if m.base = base then some (.defined w.classes.length, m) else none).toList) := by
  have hlength : (w.addClass info).classes.length = w.classes.length + 1 :=
    List.length_append
  have hlast : (w.addClass info).mapping? (.defined w.classes.length) = info.mapping := by
    show ((w.classes ++ [info])[w.classes.length]?).bind _ = _
    rw [List.getElem?_append_right (Nat.le_refl _), Nat.sub_self]
    rfl
  unfold mappedOn
  rw [hlength, List.range_succ, List.map_append, List.filterMap_append]
  congr 1
  · refine List.filterMap_congr fun c hc => ?_
    obtain ⟨i, hi, rfl⟩ := List.mem_map.1 hc
    show (((w.classes ++ [info])[i]?).bind _).bind _ = _
    rw [List.getElem?_append_left (List.mem_range.1 hi)]
    rfl
  · rw [List.map_singleton, List.filterMap_cons, hlast, List.filterMap_nil]
    cases info.mapping.bind _ <;> rfl

end Relations

variable {ρ τ σ : Nat ↪ Nat} {w w' : World}

namespace World

variable {m m' : ImportedModule} {info info' : ClassInfo} {index : Nat} {name : String}

/-- Changing a module changes no other. -/
theorem getElem?_changeModule (w : World) (index : Nat) (f : ImportedModule → ImportedModule)
    (i : Nat) : (w.changeModule index f).modules[i]? =
      if index = i then (w.modules[i]?).map f else w.modules[i]? := by
  unfold changeModule
  split
  · rename_i hm
    split
    · rename_i hi
      rw [← hi, hm]
      rfl
    · rfl
  · rename_i m hm
    show (w.modules.set index (f m))[i]? = _
    rw [List.getElem?_set]
    split
    · rename_i hi
      obtain ⟨hlt, -⟩ := List.getElem?_eq_some_iff.1 hm
      rw [if_pos hlt, ← hi, hm]
      rfl
    · rfl

theorem length_changeModule (w : World) (index : Nat) (f : ImportedModule → ImportedModule) :
    (w.changeModule index f).modules.length = w.modules.length := by
  unfold changeModule
  split
  · rfl
  · exact List.length_set

theorem registry_changeModule (w : World) (index : Nat) (f : ImportedModule → ImportedModule) :
    (w.changeModule index f).registry = w.registry := by
  unfold changeModule
  split <;> rfl

namespace Mirrors

theorem nextClass_eq (h : w.Mirrors ρ τ w') : ρ w.classes.length = w'.classes.length :=
  h.nextClass 0

theorem nextModule_eq (h : w.Mirrors ρ τ w') : τ w.modules.length = w'.modules.length :=
  h.nextModule 0

/-- The numbers themselves are among those that agree with them. -/
theorem agrees_self (h : w.Mirrors ρ τ w') {n : Nat} (hn : w.classes.length ≤ n) :
    AgreesBelow ρ n ρ := by
  refine ⟨fun _ _ => rfl, fun i hi => ?_⟩
  obtain ⟨k, rfl⟩ := Nat.exists_eq_add_of_le hn
  obtain ⟨j, rfl⟩ := Nat.exists_eq_add_of_le hi
  rw [Nat.add_assoc, h.nextClass, h.nextClass]
  omega

theorem agrees (h : w.Mirrors ρ τ w') : AgreesBelow ρ w.classes.length ρ :=
  h.agrees_self (Nat.le_refl _)

/-- Numbers that agree on more classes agree on fewer. -/
theorem agrees_of_le (h : w.Mirrors ρ τ w') {n : Nat} (hn : w.classes.length ≤ n)
    (hσ : AgreesBelow ρ n σ) : AgreesBelow ρ w.classes.length σ := by
  refine ⟨fun i hi => hσ.1 i (Nat.lt_of_lt_of_le hi hn), fun i hi => ?_⟩
  rcases Nat.lt_or_ge i n with hlt | hge
  · rw [hσ.1 i hlt]
    exact h.agrees.2 i hi
  · exact (h.agrees.2 n hn).trans (hσ.2 i hge)

/-- A world that mirrors another one has its classes under other numbers. -/
theorem renumbers (h : w.Mirrors ρ τ w') (hσ : AgreesBelow ρ w.classes.length σ) :
    Renumbers σ w w' where
  info c := by
    cases c with
    | standard name => rfl
    | defined i => exact h.class? σ hσ i
  names name := by
    unfold World.names World.module?
    rw [h.lookup]
    cases w.registry.lookup name with
    | none => rfl
    | some i =>
      rw [Option.map_some, Option.bind_some, Option.bind_some, h.module? σ hσ]
      cases w.modules[i]? <;> rfl
  mappedOn := h.mappedOn σ hσ

/-- A class that joins both worlds at their next places. -/
theorem renumbers_addClass (h : w.Mirrors ρ τ w')
    (hσ : AgreesBelow ρ (w.classes.length + 1) σ) (info : ClassInfo) :
    Renumbers σ (w.addClass info) (w'.addClass (info.renumber σ)) := by
  have hless : AgreesBelow ρ w.classes.length σ := h.agrees_of_le (Nat.le_succ _) hσ
  have hnext : σ w.classes.length = w'.classes.length := by
    rw [hσ.1 _ (Nat.lt_succ_self _), h.nextClass_eq]
  refine ⟨fun c => ?_, (h.renumbers hless).names, fun base => ?_⟩
  · cases c with
    | standard name => rfl
    | defined i =>
      show (w'.classes ++ [info.renumber σ])[σ i]? = ((w.classes ++ [info])[i]?).map _
      rcases Nat.lt_trichotomy i w.classes.length with hlt | rfl | hgt
      · have hsome := h.class? σ hless i
        rw [List.getElem?_eq_getElem hlt] at hsome
        obtain ⟨hlt', -⟩ := List.getElem?_eq_some_iff.1 hsome
        rw [List.getElem?_append_left hlt, List.getElem?_append_left hlt', h.class? σ hless]
      · rw [hnext, List.getElem?_concat_length, List.getElem?_concat_length]
        rfl
      · have hfar := hσ.2 i hgt
        rw [h.nextClass] at hfar
        rw [List.getElem?_eq_none, List.getElem?_eq_none]
        · rfl
        · rw [List.length_append, List.length_singleton]
          omega
        · rw [List.length_append, List.length_singleton]
          exact hfar
  · rw [Relations.mappedOn_addClass, Relations.mappedOn_addClass, h.mappedOn σ hless,
      List.map_append]
    congr 1
    show (Option.bind (info.mapping.map (Mapping.renumber σ)) _).toList = _
    cases info.mapping with
    | none => rfl
    | some m =>
      have hbase : (m.renumber σ).base = base.renumber σ ↔ m.base = base := ClassRef.renumber_inj
      simp only [Option.map_some, Option.bind_some, hbase]
      split
      · rw [← hnext]
        rfl
      · rfl

/-- Worlds that differ from such ones in their modules alone. -/
theorem of_modules (h : w.Mirrors ρ τ w') {v v' : World} (hclasses : v.classes = w.classes)
    (hclasses' : v'.classes = w'.classes)
    (hnext : ∀ k, τ (v.modules.length + k) = v'.modules.length + k)
    (hmodule : ∀ σ, AgreesBelow ρ w.classes.length σ → ∀ i,
      v'.modules[τ i]? = (v.modules[i]?).map (ImportedModule.renumber σ))
    (hlookup : ∀ name, v'.registry.lookup name = (v.registry.lookup name).map τ) :
    v.Mirrors ρ τ v' where
  nextClass := by rw [hclasses, hclasses']; exact h.nextClass
  nextModule := hnext
  class? := by rw [hclasses, hclasses']; exact h.class?
  module? := by rw [hclasses]; exact hmodule
  lookup := hlookup
  mappedOn σ hσ base := by
    rw [hclasses] at hσ
    rw [Relations.mappedOn_congr hclasses, Relations.mappedOn_congr hclasses']
    exact h.mappedOn σ hσ base

/-- The same module added to both worlds keeps them mirrors. -/
theorem addModule (h : w.Mirrors ρ τ w')
    (hm : ∀ σ, AgreesBelow ρ w.classes.length σ → m' = m.renumber σ) :
    (w.addModule m).Mirrors ρ τ (w'.addModule m') := by
  have hname : m'.name = m.name := by rw [hm ρ h.agrees]; rfl
  refine h.of_modules rfl rfl ?_ ?_ ?_
  · intro k
    show τ ((w.modules ++ [m]).length + k) = (w'.modules ++ [m']).length + k
    rw [List.length_append, List.length_append, Nat.add_assoc, Nat.add_assoc, h.nextModule]
    rfl
  · intro σ hσ i
    show (w'.modules ++ [m'])[τ i]? = ((w.modules ++ [m])[i]?).map _
    rcases Nat.lt_trichotomy i w.modules.length with hlt | rfl | hgt
    · have hsome := h.module? σ hσ i
      rw [List.getElem?_eq_getElem hlt] at hsome
      obtain ⟨hlt', -⟩ := List.getElem?_eq_some_iff.1 hsome
      rw [List.getElem?_append_left hlt, List.getElem?_append_left hlt', h.module? σ hσ]
    · rw [h.nextModule_eq, List.getElem?_concat_length, List.getElem?_concat_length, hm σ hσ]
      rfl
    · obtain ⟨k, rfl⟩ := Nat.exists_eq_add_of_lt hgt
      rw [Nat.add_assoc, h.nextModule, List.getElem?_eq_none, List.getElem?_eq_none]
      · rfl
      · rw [List.length_append, List.length_singleton]
        omega
      · rw [List.length_append, List.length_singleton]
        omega
  · intro name
    show (Keyed.put m'.name w'.modules.length w'.registry).lookup name =
      ((Keyed.put m.name w.modules.length w.registry).lookup name).map τ
    rw [Keyed.lookup_put, Keyed.lookup_put, h.lookup, hname]
    split
    · rw [Option.map_some, h.nextModule_eq]
    · rfl

theorem unregister (h : w.Mirrors ρ τ w') (name : String) :
    (w.unregister name).Mirrors ρ τ (w'.unregister name) := by
  refine h.of_modules rfl rfl h.nextModule h.module? fun n => ?_
  show (Keyed.erase name w'.registry).lookup n = ((Keyed.erase name w.registry).lookup n).map τ
  rw [Keyed.lookup_erase, Keyed.lookup_erase, h.lookup]
  split <;> rfl

/-- The same change to a module of both worlds keeps them mirrors. -/
theorem changeModule (h : w.Mirrors ρ τ w') {f f' : ImportedModule → ImportedModule}
    (hf : ∀ σ, AgreesBelow ρ w.classes.length σ → ∀ m,
      f' (m.renumber σ) = (f m).renumber σ) (index : Nat) :
    (w.changeModule index f).Mirrors ρ τ (w'.changeModule (τ index) f') := by
  refine h.of_modules (w.classes_changeModule index f) (w'.classes_changeModule (τ index) f')
    ?_ ?_ ?_
  · rw [length_changeModule, length_changeModule]
    exact h.nextModule
  · intro σ hσ i
    rw [getElem?_changeModule, getElem?_changeModule, h.module? σ hσ]
    by_cases hi : index = i
    · rw [if_pos hi, if_pos (congrArg τ hi), Option.map_map, Option.map_map]
      exact congrArg (Option.map · w.modules[i]?) (funext fun m => hf σ hσ m)
    · rw [if_neg hi, if_neg (τ.injective.ne hi)]
  · rw [registry_changeModule, registry_changeModule]
    exact h.lookup

theorem bind (h : w.Mirrors ρ τ w') {v v' : Hint}
    (hv : ∀ σ, AgreesBelow ρ w.classes.length σ → v' = v.renumber σ) (index : Nat)
    (name : String) : (w.bind index name v).Mirrors ρ τ (w'.bind (τ index) name v') := by
  refine h.changeModule (fun σ hσ m => ?_) index
  rw [hv σ hσ]
  exact congrArg (fun names => { m with names := names }) (Keyed.put_map_values _ m.names name v)

/-- The same class added to both worlds keeps them mirrors. -/
theorem addClass (h : w.Mirrors ρ τ w')
    (hinfo : ∀ σ, AgreesBelow ρ (w.classes.length + 1) σ → info' = info.renumber σ) :
    (w.addClass info).Mirrors ρ τ (w'.addClass info') := by
  have hlength : (w.addClass info).classes.length = w.classes.length + 1 := List.length_append
  have hlength' : (w'.addClass info').classes.length = w'.classes.length + 1 := List.length_append
  have hnew : ∀ σ, AgreesBelow ρ (w.addClass info).classes.length σ →
      Renumbers σ (w.addClass info) (w'.addClass info') := by
    intro σ hσ
    rw [hlength] at hσ
    rw [hinfo σ hσ]
    exact h.renumbers_addClass hσ info
  refine ⟨fun k => ?_, h.nextModule, fun σ hσ i => (hnew σ hσ).info (.defined i),
    fun σ hσ => h.module? σ (h.agrees_of_le (hlength ▸ Nat.le_succ _) hσ), h.lookup,
    fun σ hσ => (hnew σ hσ).mappedOn⟩
  rw [hlength, hlength', Nat.add_assoc, Nat.add_assoc, h.nextClass]

end Mirrors

end World

end TypeExport

/-!
## Actions that follow one another

An action on a world and one on a world that mirrors it may end alike: with the same failure or with
values that are the same up to the numbers of classes, in worlds of which the second one again mirrors
the first.  Sequences, handlers and loops of such actions do so too.
-/

namespace TypeExport

/-- The second action ends as the first one does, up to numbers, and the first one ends as `Q` says.
What `f σ` makes of the value of the first action is the value of the second one, whatever `σ` says
of the classes that neither world has yet. -/
structure Follows {ε S α : Type} (world : S → World) (ρ τ : Nat ↪ Nat)
    (f : (Nat ↪ Nat) → α → α) (Q : Except ε α → S → Prop) (x x' : ExceptT ε (StateM S) α)
    (s s' : S) : Prop where
  grows : (world s).classes.length ≤ (world (x.run.run s).2).classes.length
  mirrors : (world (x.run.run s).2).Mirrors ρ τ (world (x'.run.run s').2)
  result : ∀ σ, AgreesBelow ρ (world (x.run.run s).2).classes.length σ →
    (x'.run.run s').1 = (x.run.run s).1.map (f σ)
  ends : Ends x s Q

variable {ε S α β : Type} {world : S → World} {ρ τ : Nat ↪ Nat} {f : (Nat ↪ Nat) → α → α}
  {g : (Nat ↪ Nat) → β → β} {P : Except ε α → S → Prop} {Q : Except ε β → S → Prop} {s s' : S}

theorem follows_pure {a a' : α} (h : (world s).Mirrors ρ τ (world s'))
    (ha : ∀ σ, AgreesBelow ρ (world s).classes.length σ → a' = f σ a) (hP : P (.ok a) s) :
    Follows world ρ τ f P (pure a) (pure a') s s' where
  grows := Nat.le_refl _
  mirrors := h
  result σ hσ := congrArg Except.ok (ha σ hσ)
  ends := hP

theorem follows_throw {e : ε} (h : (world s).Mirrors ρ τ (world s')) (hP : P (.error e) s) :
    Follows world ρ τ f P (throw e) (throw e) s s' where
  grows := Nat.le_refl _
  mirrors := h
  result _ _ := rfl
  ends := hP

/-- Steps that change the states as they are. -/
theorem follows_modify {m m' : S → S} {P : Except ε PUnit → S → Prop}
    (hgrows : (world s).classes.length ≤ (world (m s)).classes.length)
    (h : (world (m s)).Mirrors ρ τ (world (m' s'))) (hP : P (.ok ⟨⟩) (m s)) :
    Follows world ρ τ (fun _ => id) P (modify m) (modify m') s s' where
  grows := hgrows
  mirrors := h
  result _ _ := rfl
  ends := hP

theorem Follows.imp {P' : Except ε α → S → Prop} {x x' : ExceptT ε (StateM S) α}
    (h : Follows world ρ τ f P x x' s s') (himp : ∀ result t, P result t → P' result t) :
    Follows world ρ τ f P' x x' s s' where
  grows := h.grows
  mirrors := h.mirrors
  result := h.result
  ends := h.ends.imp himp

theorem follows_get_bind {k k' : S → ExceptT ε (StateM S) β}
    (h : Follows world ρ τ g Q (k s) (k' s') s s') :
    Follows world ρ τ g Q (get >>= k) (get >>= k') s s' :=
  ⟨h.grows, h.mirrors, h.result, h.ends⟩

/-- What actions that follow one another later say of actions that lead to them. -/
theorem Follows.of_runs {t t' : S} {x x' y y' : ExceptT ε (StateM S) α}
    (h : Follows world ρ τ f P y y' t t')
    (hgrows : (world s).classes.length ≤ (world t).classes.length)
    (hx : x.run.run s = y.run.run t) (hx' : x'.run.run s' = y'.run.run t') :
    Follows world ρ τ f P x x' s s' := by
  obtain ⟨hmore, hmirrors, hresult, hends⟩ := h
  unfold Ends at hends
  rw [← hx] at hmore hmirrors hresult hends
  rw [← hx'] at hmirrors hresult
  exact ⟨hgrows.trans hmore, hmirrors, hresult, hends⟩

/-- How both actions end: with one failure, or with values that are the same up to numbers. -/
theorem Follows.runs {x x' : ExceptT ε (StateM S) α} (h : Follows world ρ τ f P x x' s s') :
    ∃ t t', (world s).classes.length ≤ (world t).classes.length ∧
      (world t).Mirrors ρ τ (world t') ∧
      ((∃ e, x.run.run s = (.error e, t) ∧ x'.run.run s' = (.error e, t') ∧ P (.error e) t) ∨
        ∃ a a', x.run.run s = (.ok a, t) ∧ x'.run.run s' = (.ok a', t') ∧ P (.ok a) t ∧
          ∀ σ, AgreesBelow ρ (world t).classes.length σ → a' = f σ a) := by
  obtain ⟨hgrows, hmirrors, hresult, hends⟩ := h
  unfold Ends at hends
  cases hs : x.run.run s with
  | mk r t =>
    cases hs' : x'.run.run s' with
    | mk r' t' =>
      rw [hs] at hgrows hmirrors hresult hends
      rw [hs'] at hmirrors hresult
      refine ⟨t, t', hgrows, hmirrors, ?_⟩
      cases r with
      | error e =>
        have hr' : r' = .error e := hresult ρ hmirrors.agrees
        subst hr'
        exact .inl ⟨e, rfl, rfl, hends⟩
      | ok a =>
        have hr' : r' = .ok (f ρ a) := hresult ρ hmirrors.agrees
        subst hr'
        exact .inr ⟨a, f ρ a, rfl, rfl, hends, fun σ hσ => Except.ok.inj (hresult σ hσ)⟩

/-- Sequences follow each other if both of their steps do. -/
theorem Follows.bind {x x' : ExceptT ε (StateM S) α} {k k' : α → ExceptT ε (StateM S) β}
    (hx : Follows world ρ τ f P x x' s s')
    (hk : ∀ a t a' t', (world s).classes.length ≤ (world t).classes.length →
      (world t).Mirrors ρ τ (world t') →
      (∀ σ, AgreesBelow ρ (world t).classes.length σ → a' = f σ a) → P (.ok a) t →
      Follows world ρ τ g Q (k a) (k' a') t t')
    (herror : ∀ e t, P (.error e) t → Q (.error e) t) :
    Follows world ρ τ g Q (x >>= k) (x' >>= k') s s' := by
  obtain ⟨t, t', hgrows, hmirrors, h | h⟩ := hx.runs
  · obtain ⟨e, hs, hs', hP⟩ := h
    refine (follows_throw (e := e) hmirrors (herror e t hP)).of_runs hgrows ?_ ?_
    · exact run_bind_of_error hs
    · exact run_bind_of_error hs'
  · obtain ⟨a, a', hs, hs', hP, ha⟩ := h
    refine (hk a t a' t' hgrows hmirrors ha hP).of_runs hgrows ?_ ?_
    · exact Gives.run_bind hs
    · exact Gives.run_bind hs'

/-- What handles failures follows if the action and the handler do. -/
theorem Follows.tryCatch {x x' : ExceptT ε (StateM S) α}
    {handler handler' : ε → ExceptT ε (StateM S) α} {P' : Except ε α → S → Prop}
    (hx : Follows world ρ τ f P x x' s s') (hok : ∀ a t, P (.ok a) t → P' (.ok a) t)
    (hhandler : ∀ e t t', (world s).classes.length ≤ (world t).classes.length →
      (world t).Mirrors ρ τ (world t') → P (.error e) t →
      Follows world ρ τ f P' (handler e) (handler' e) t t') :
    Follows world ρ τ f P' (tryCatch x handler) (tryCatch x' handler') s s' := by
  obtain ⟨t, t', hgrows, hmirrors, h | h⟩ := hx.runs
  · obtain ⟨e, hs, hs', hP⟩ := h
    refine (hhandler e t t' hgrows hmirrors hP).of_runs hgrows ?_ ?_
    · rw [run_tryCatch, hs]
    · rw [run_tryCatch, hs']
  · obtain ⟨a, a', hs, hs', hP, ha⟩ := h
    refine (follows_pure hmirrors ha (hok a t hP)).of_runs hgrows ?_ ?_
    · rw [run_tryCatch, hs]
      rfl
    · rw [run_tryCatch, hs']
      rfl

/-- Loops whose steps follow one another as long as `J` holds. -/
theorem follows_forIn {γ : Type} {l : List γ} {J : S → Prop}
    {x x' : γ → PUnit → ExceptT ε (StateM S) (ForInStep PUnit)}
    (hstep : ∀ c ∈ l, ∀ t t', (world s).classes.length ≤ (world t).classes.length →
      (world t).Mirrors ρ τ (world t') → J t →
      Follows world ρ τ (fun _ => id) (fun _ => J) (x c ⟨⟩) (x' c ⟨⟩) t t')
    (h : (world s).Mirrors ρ τ (world s')) (hJ : J s) :
    Follows world ρ τ (fun _ => id) (fun _ => J) (forIn l PUnit.unit x)
      (forIn l PUnit.unit x') s s' := by
  induction l generalizing s s' with
  | nil => exact follows_pure h (fun _ _ => rfl) hJ
  | cons c rest ih =>
    rw [List.forIn_cons, List.forIn_cons]
    refine (hstep c List.mem_cons_self s s' (Nat.le_refl _) h hJ).bind ?_ fun _ _ => id
    intro step t step' t' hgrows hmirrors hstep' hJt
    have hsame : step' = step := hstep' ρ hmirrors.agrees
    subst hsame
    cases step' with
    | done b => exact follows_pure hmirrors (fun _ _ => rfl) hJt
    | yield b =>
      refine ih ?_ hmirrors hJt
      exact fun c hc u u' hu => hstep c (List.mem_cons_of_mem _ hc) u u' (hgrows.trans hu)

section Definitions

variable {w w' : World} {Q : Except Failure α → World → Prop}

theorem follows_ofWorld {x x' : World → Except Failure α} (h : w.Mirrors ρ τ w')
    (hx : ∀ σ, AgreesBelow ρ w.classes.length σ → x' w' = (x w).map (f σ)) (hQ : Q (x w) w) :
    Follows id ρ τ f Q (Defines.ofWorld x) (Defines.ofWorld x') w w' where
  grows := Nat.le_refl _
  mirrors := h
  result := hx
  ends := hQ

end Definitions

end TypeExport

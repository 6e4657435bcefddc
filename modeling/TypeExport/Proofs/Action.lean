import TypeExport.Class.Definition

/-!
# Actions that succeed

Runs, scans and definitions are actions over a state that may fail.  An action gives a value and the
state that it leaves; what a sequence of actions gives follows step by step.
-/

namespace TypeExport

variable {ε σ α β : Type} {s t u : σ} {a : α} {b : β}

theorem bind_ok (f : α → Except ε β) : (Except.ok a >>= f) = f a :=
  rfl

/-- A sequence succeeds if both steps do. -/
theorem bind_eq_ok_iff {x : Except ε α} {f : α → Except ε β} :
    x >>= f = .ok b ↔ ∃ a, x = .ok a ∧ f a = .ok b := by
  cases x with
  | error e =>
    constructor
    · intro h
      cases h
    · rintro ⟨_, h, -⟩
      cases h
  | ok a =>
    constructor
    · exact fun h => ⟨a, rfl, h⟩
    · rintro ⟨_, h, hf⟩
      cases h
      exact hf

/-- A sequence fails with the failure of its first step that fails. -/
theorem bind_eq_error_iff {x : Except ε α} {f : α → Except ε β} {e : ε} :
    x >>= f = .error e ↔ x = .error e ∨ ∃ a, x = .ok a ∧ f a = .error e := by
  cases x with
  | error e' =>
    constructor
    · intro h
      cases h
      exact .inl rfl
    · rintro (h | ⟨_, h, -⟩)
      · cases h
        rfl
      · cases h
  | ok a =>
    constructor
    · exact fun h => .inr ⟨a, rfl, h⟩
    · rintro (h | ⟨_, h, hf⟩)
      · cases h
      · cases h
        exact hf

/-- Other words for a failure do not change what succeeds. -/
theorem mapError_eq_ok_iff {ε' : Type} {x : Except ε α} {f : ε → ε'} :
    x.mapError f = .ok a ↔ x = .ok a := by
  cases x with
  | error e =>
    constructor
    · intro h
      cases h
    · intro h
      cases h
  | ok b =>
    constructor
    · intro h
      cases h
      rfl
    · intro h
      cases h
      rfl

/-- The action succeeds in the state `s` with a value and leaves a state. -/
def Gives (x : ExceptT ε (StateM σ) α) (s : σ) (a : α) (t : σ) : Prop :=
  x.run.run s = (.ok a, t)

theorem gives_pure (a : α) (s : σ) : Gives (pure a : ExceptT ε (StateM σ) α) s a s :=
  rfl

theorem Gives.bind {x : ExceptT ε (StateM σ) α} {f : α → ExceptT ε (StateM σ) β}
    (h : Gives x s a t) (h' : Gives (f a) t b u) : Gives (x >>= f) s b u := by
  unfold Gives at h h' ⊢
  rw [ExceptT.run_bind, StateT.run_bind, h]
  exact h'

/-- A sequence that succeeds has a first action that does. -/
theorem Gives.of_bind {x : ExceptT ε (StateM σ) α} {f : α → ExceptT ε (StateM σ) β}
    (h : Gives (x >>= f) s b u) : ∃ a t, Gives x s a t ∧ Gives (f a) t b u := by
  unfold Gives at h
  rw [ExceptT.run_bind, StateT.run_bind] at h
  cases hx : x.run.run s with
  | mk result t =>
    rw [hx] at h
    cases result with
    | error e => cases h
    | ok a => exact ⟨a, t, hx, h⟩

theorem Gives.run_bind {x : ExceptT ε (StateM σ) α} {f : α → ExceptT ε (StateM σ) β}
    (h : Gives x s a t) : (x >>= f).run.run s = (f a).run.run t := by
  unfold Gives at h
  rw [ExceptT.run_bind, StateT.run_bind, h]
  rfl

/-- A sequence whose first action fails ends there. -/
theorem run_bind_of_error {x : ExceptT ε (StateM σ) α} {f : α → ExceptT ε (StateM σ) β} {e : ε}
    (h : x.run.run s = (.error e, t)) : (x >>= f).run.run s = (.error e, t) := by
  rw [ExceptT.run_bind, StateT.run_bind, h]
  rfl

/-- Sequences that go on alike after what the first action gives. -/
theorem run_bind_congr {x : ExceptT ε (StateM σ) α} {f g : α → ExceptT ε (StateM σ) β}
    (h : ∀ a t, Gives x s a t → (f a).run.run t = (g a).run.run t) :
    (x >>= f).run.run s = (x >>= g).run.run s := by
  rw [ExceptT.run_bind, ExceptT.run_bind, StateT.run_bind, StateT.run_bind]
  cases hx : x.run.run s with
  | mk result t =>
    cases result with
    | error e => rfl
    | ok a => exact h a t hx

theorem Gives.unique {x : ExceptT ε (StateM σ) α} {a' : α} {t' : σ} (h : Gives x s a t)
    (h' : Gives x s a' t') : a = a' ∧ t = t' := by
  unfold Gives at h h'
  rw [h] at h'
  cases h'
  exact ⟨rfl, rfl⟩

/-- The action succeeds in the state `s`, with a value and a state that are as `Q` says. -/
def Succeeds (x : ExceptT ε (StateM σ) α) (s : σ) (Q : α → σ → Prop) : Prop :=
  ∃ a t, Gives x s a t ∧ Q a t

theorem Gives.succeeds {x : ExceptT ε (StateM σ) α} {Q : α → σ → Prop} (h : Gives x s a t)
    (hQ : Q a t) : Succeeds x s Q :=
  ⟨a, t, h, hQ⟩

theorem Gives.andThen {x : ExceptT ε (StateM σ) α} {f : α → ExceptT ε (StateM σ) β}
    {Q : β → σ → Prop} (h : Gives x s a t) (h' : Succeeds (f a) t Q) : Succeeds (x >>= f) s Q := by
  obtain ⟨b, u, hb, hQ⟩ := h'
  exact ⟨b, u, h.bind hb, hQ⟩

theorem Succeeds.bind {x : ExceptT ε (StateM σ) α} {f : α → ExceptT ε (StateM σ) β}
    {P : α → σ → Prop} {Q : β → σ → Prop} (h : Succeeds x s P)
    (h' : ∀ a t, P a t → Succeeds (f a) t Q) : Succeeds (x >>= f) s Q := by
  obtain ⟨a, t, ha, hP⟩ := h
  exact ha.andThen (h' a t hP)

theorem Gives.succeeds_iff {x : ExceptT ε (StateM σ) α} {Q : α → σ → Prop} (h : Gives x s a t) :
    Succeeds x s Q ↔ Q a t := by
  constructor
  · rintro ⟨a', t', ha, hQ⟩
    obtain ⟨rfl, rfl⟩ := h.unique ha
    exact hQ
  · exact h.succeeds

/-- What an action succeeds with can be seen from its run. -/
instance decidableSucceeds (x : ExceptT ε (StateM σ) α) (s : σ) (Q : α → σ → Prop)
    [∀ a t, Decidable (Q a t)] : Decidable (Succeeds x s Q) :=
  match h : x.run.run s with
  | (.ok a, t) => decidable_of_iff (Q a t) (Gives.succeeds_iff h).symm
  | (.error _, _) => isFalse fun ⟨_, _, hgives, _⟩ => by cases h.symm.trans hgives

/-- A sequence succeeds if its first action does and leaves what the rest needs. -/
theorem succeeds_bind_iff {x : ExceptT ε (StateM σ) α} {f : α → ExceptT ε (StateM σ) β}
    {Q : β → σ → Prop} : Succeeds (x >>= f) s Q ↔ Succeeds x s fun a t => Succeeds (f a) t Q := by
  constructor
  · rintro ⟨b, u, hb, hQ⟩
    obtain ⟨a, t, ha, hf⟩ := hb.of_bind
    exact ⟨a, t, ha, b, u, hf, hQ⟩
  · exact fun h => h.bind fun _ _ hf => hf

theorem succeeds_pure_iff {Q : α → σ → Prop} :
    Succeeds (pure a : ExceptT ε (StateM σ) α) s Q ↔ Q a s :=
  (gives_pure a s).succeeds_iff

theorem gives_get (s : σ) : Gives (get : ExceptT ε (StateM σ) σ) s s s :=
  rfl

theorem succeeds_get_iff {Q : σ → σ → Prop} :
    Succeeds (get : ExceptT ε (StateM σ) σ) s Q ↔ Q s s :=
  (gives_get s).succeeds_iff

theorem gives_set (s t : σ) : Gives (set t : ExceptT ε (StateM σ) PUnit) s ⟨⟩ t :=
  rfl

theorem gives_modify (f : σ → σ) (s : σ) :
    Gives (modify f : ExceptT ε (StateM σ) PUnit) s ⟨⟩ (f s) :=
  rfl

theorem gives_forIn_cons {c : β} {rest : List β}
    {f : β → PUnit → ExceptT ε (StateM σ) (ForInStep PUnit)} (h : Gives (f c ⟨⟩) s (.yield ⟨⟩) t)
    (hrest : Gives (forIn rest PUnit.unit f) t ⟨⟩ u) :
    Gives (forIn (c :: rest) PUnit.unit f) s ⟨⟩ u := by
  rw [List.forIn_cons]
  exact h.bind hrest

/-- A loop that does the same with every value. -/
theorem gives_each_cons {c : β} {rest : List β} {f : β → ExceptT ε (StateM σ) PUnit}
    (h : Gives (f c) s ⟨⟩ t)
    (hrest : Gives (forIn rest PUnit.unit fun b _ => do f b; pure (.yield ⟨⟩)) t ⟨⟩ u) :
    Gives (forIn (c :: rest) PUnit.unit fun b _ => do f b; pure (.yield ⟨⟩)) s ⟨⟩ u :=
  gives_forIn_cons (h.bind (gives_pure _ t)) hrest

/-- A loop over one value. -/
theorem gives_forIn_one {c : β} {f : β → PUnit → ExceptT ε (StateM σ) (ForInStep PUnit)}
    (h : Gives (f c ⟨⟩) s (.yield ⟨⟩) t) : Gives (forIn [c] PUnit.unit f) s ⟨⟩ t :=
  gives_forIn_cons h (gives_pure _ t)

theorem gives_mapM_one {c : β} {f : β → ExceptT ε (StateM σ) α} (h : Gives (f c) s a t) :
    Gives ([c].mapM f) s [a] t := by
  rw [List.mapM_cons]
  refine h.bind ?_
  rw [List.mapM_nil]
  exact gives_pure _ t

/-- Actions that give their values in every state and leave the state alone. -/
theorem exists_gives_mapM {γ : Type} {l : List α} {f : α → ExceptT ε (StateM σ) γ}
    (h : ∀ a ∈ l, ∃ c, ∀ s, Gives (f a) s c s) : ∃ cs, ∀ s, Gives (l.mapM f) s cs s := by
  induction l with
  | nil => exact ⟨[], fun s => gives_pure [] s⟩
  | cons a rest ih =>
    obtain ⟨c, hc⟩ := h a List.mem_cons_self
    obtain ⟨more, hmore⟩ := ih fun b hb => h b (List.mem_cons_of_mem a hb)
    refine ⟨c :: more, fun s => ?_⟩
    rw [List.mapM_cons]
    exact (hc s).bind ((hmore s).bind (gives_pure _ s))

theorem run_tryCatch (x : ExceptT ε (StateM σ) α) (handler : ε → ExceptT ε (StateM σ) α) (s : σ) :
    (tryCatch x handler).run.run s =
      match x.run.run s with
      | (.ok a, t) => (.ok a, t)
      | (.error e, t) => (handler e).run.run t := by
  have hrun : (tryCatch x handler).run = x.run >>= fun
      | .ok a => pure (.ok a)
      | .error e => (handler e).run := rfl
  rw [hrun, StateT.run_bind]
  cases x.run.run s with
  | mk result t => cases result <;> rfl

theorem gives_tryCatch {x : ExceptT ε (StateM σ) α} (h : Gives x s a t)
    (handler : ε → ExceptT ε (StateM σ) α) : Gives (tryCatch x handler) s a t := by
  unfold Gives at h ⊢
  rw [run_tryCatch, h]

theorem gives_mk {x : σ → Except ε α × σ} (h : x s = (.ok a, t)) :
    Gives (ExceptT.mk x : ExceptT ε (StateM σ) α) s a t :=
  h

theorem succeeds_mk_iff {x : σ → Except ε α × σ} {Q : α → σ → Prop} :
    Succeeds (ExceptT.mk x : ExceptT ε (StateM σ) α) s Q ↔ ∃ a, (x s).1 = .ok a ∧ Q a (x s).2 := by
  constructor
  · rintro ⟨a, t, ha, hQ⟩
    have hx : x s = (.ok a, t) := ha
    rw [hx]
    exact ⟨a, rfl, hQ⟩
  · rintro ⟨a, ha, hQ⟩
    exact (gives_mk (Prod.ext ha rfl)).succeeds hQ

theorem gives_ofWorld {w : World} {f : World → Except Failure α} (h : f w = .ok a) :
    Gives (Defines.ofWorld f) w a w := by
  refine (gives_get w).bind (gives_mk ?_)
  show (f w, w) = _
  rw [h]

/-- What the action ends with in the state `s`, a value or a failure, and the state that it leaves
are as `Q` says. -/
def Ends (x : ExceptT ε (StateM σ) α) (s : σ) (Q : Except ε α → σ → Prop) : Prop :=
  Q (x.run.run s).1 (x.run.run s).2

theorem ends_bind_iff {x : ExceptT ε (StateM σ) α} {f : α → ExceptT ε (StateM σ) β}
    {Q : Except ε β → σ → Prop} :
    Ends (x >>= f) s Q ↔ Ends x s fun result t =>
      match result with
      | .ok a => Ends (f a) t Q
      | .error e => Q (.error e) t := by
  unfold Ends
  rw [ExceptT.run_bind, StateT.run_bind]
  cases x.run.run s with
  | mk result t => cases result <;> rfl

theorem Ends.bind {x : ExceptT ε (StateM σ) α} {f : α → ExceptT ε (StateM σ) β}
    {P : Except ε α → σ → Prop} {Q : Except ε β → σ → Prop} (h : Ends x s P)
    (hok : ∀ a t, P (.ok a) t → Ends (f a) t Q)
    (herror : ∀ e t, P (.error e) t → Q (.error e) t) : Ends (x >>= f) s Q := by
  rw [ends_bind_iff]
  unfold Ends at h ⊢
  cases hresult : (x.run.run s).1 with
  | ok a => exact hok a _ (hresult ▸ h)
  | error e => exact herror e _ (hresult ▸ h)

theorem Ends.imp {x : ExceptT ε (StateM σ) α} {P Q : Except ε α → σ → Prop} (h : Ends x s P)
    (himp : ∀ result t, P result t → Q result t) : Ends x s Q :=
  himp _ _ h

theorem Ends.of_gives {x : ExceptT ε (StateM σ) α} {Q : Except ε α → σ → Prop} (h : Ends x s Q)
    (hx : Gives x s a t) : Q (.ok a) t := by
  unfold Ends at h
  unfold Gives at hx
  rw [hx] at h
  exact h

theorem ends_pure_iff {Q : Except ε α → σ → Prop} :
    Ends (pure a : ExceptT ε (StateM σ) α) s Q ↔ Q (.ok a) s :=
  Iff.rfl

theorem ends_get_iff {Q : Except ε σ → σ → Prop} :
    Ends (get : ExceptT ε (StateM σ) σ) s Q ↔ Q (.ok s) s :=
  Iff.rfl

theorem ends_mk_iff {x : σ → Except ε α × σ} {Q : Except ε α → σ → Prop} :
    Ends (ExceptT.mk x : ExceptT ε (StateM σ) α) s Q ↔ Q (x s).1 (x s).2 :=
  Iff.rfl

theorem ends_modify_iff {f : σ → σ} {Q : Except ε PUnit → σ → Prop} :
    Ends (modify f : ExceptT ε (StateM σ) PUnit) s Q ↔ Q (.ok ⟨⟩) (f s) :=
  Iff.rfl

theorem ends_tryCatch_iff {x : ExceptT ε (StateM σ) α} {handler : ε → ExceptT ε (StateM σ) α}
    {Q : Except ε α → σ → Prop} :
    Ends (tryCatch x handler) s Q ↔ Ends x s fun result t =>
      match result with
      | .ok a => Q (.ok a) t
      | .error e => Ends (handler e) t Q := by
  unfold Ends
  rw [run_tryCatch]
  cases x.run.run s with
  | mk result t => cases result <;> rfl

end TypeExport

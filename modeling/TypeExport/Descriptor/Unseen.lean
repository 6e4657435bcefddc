import TypeExport.Descriptor.Basic

/-!
# Names that have not been seen

A walk over a type graph that marks every name it meets ends, because there are only finitely many
full names and each one is marked at most once.
-/

namespace TypeExport.TypeGraph

variable {ε : Type} (g : TypeGraph ε)

/-- The number of full names that have not been seen. -/
def unseen (seen : List String) : Nat :=
  g.fullNames.countP fun name => !seen.contains name

/-- A stronger test that some item fails counts fewer items. -/
theorem countP_lt_countP {α : Type} {p q : α → Bool} {l : List α} (h : ∀ x, p x → q x)
    {a : α} (ha : a ∈ l) (hp : p a = false) (hq : q a = true) : l.countP p < l.countP q := by
  induction l with
  | nil => simp at ha
  | cons b l ih =>
    have hle : l.countP p ≤ l.countP q := List.countP_mono_left fun x _ => h x
    simp only [List.countP_cons]
    rcases List.mem_cons.1 ha with rfl | hmem
    · simp only [hp, hq, Bool.false_eq_true, ↓reduceIte]
      omega
    · have hlt := ih hmem
      cases hb : p b with
      | false => simp only [Bool.false_eq_true, ↓reduceIte]; omega
      | true => simp only [h b hb, ↓reduceIte]; omega

theorem unseen_lt {seen : List String} {t : g.Node}
    (h : (g.descriptor t).fullName ∉ seen) :
    g.unseen ((g.descriptor t).fullName :: seen) < g.unseen seen := by
  refine countP_lt_countP (fun name hn => ?_) (g.fullName_mem t) ?_ ?_
  · simp only [List.contains_cons, Bool.not_or, Bool.and_eq_true] at hn
    exact hn.2
  · simp
  · simpa using h

theorem unseen_le {seen later : List String} (h : ∀ name ∈ seen, name ∈ later) :
    g.unseen later ≤ g.unseen seen := by
  refine List.countP_mono_left fun name _ hn => ?_
  simp only [Bool.not_eq_true', List.contains_eq_mem, decide_eq_false_iff_not] at hn ⊢
  exact fun hmem => hn (h name hmem)

end TypeExport.TypeGraph

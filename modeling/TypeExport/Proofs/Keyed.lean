import Mathlib.Control.Basic
import Mathlib.Data.List.Forall2
import Mathlib.Data.List.Induction
import Mathlib.Data.List.Nodup
import TypeExport.Keyed

/-!
# Lookups in keyed lists

Putting a value under a key changes the lookup of that key alone, and adds no other key.  No key
comes to stand twice.
-/

/-!
## Keys
-/

namespace TypeExport

/-- Putting an entry changes what stands under its key alone. -/
theorem Keyed.lookup_put {α β : Type} [DecidableEq α] [BEq α] [LawfulBEq α] (key k : α) (value : β)
    (l : List (α × β)) :
    (Keyed.put key value l).lookup k = if k = key then some value else l.lookup k := by
  induction l with
  | nil =>
    by_cases h : k = key
    · simp [Keyed.put, h]
    · simp [Keyed.put, List.lookup_cons, beq_false_of_ne h, h]
  | cons entry l ih =>
    obtain ⟨j, v⟩ := entry
    rw [Keyed.put]
    by_cases hj : j = key
    · subst hj
      rw [if_pos rfl, List.lookup_cons, List.lookup_cons]
      by_cases h : k = j
      · simp [h]
      · simp [beq_false_of_ne h, h]
    · rw [if_neg hj, List.lookup_cons, List.lookup_cons, ih]
      by_cases h : k = j
      · subst h
        simp [hj]
      · simp [beq_false_of_ne h]

/-- Leaving out a key changes what stands under it alone. -/
theorem Keyed.lookup_erase {α β : Type} [DecidableEq α] (key k : α) (l : List (α × β)) :
    (Keyed.erase key l).lookup k = if k = key then none else l.lookup k := by
  unfold Keyed.erase
  induction l with
  | nil => simp
  | cons entry l ih =>
    obtain ⟨k', v⟩ := entry
    by_cases hkey : k' = key
    · rw [List.filter_cons_of_neg (by simpa using hkey), ih]
      split
      · rfl
      · rename_i hne
        rw [List.lookup_cons, beq_eq_false_iff_ne.2 fun h => hne (h.trans hkey)]
    · rw [List.filter_cons_of_pos (by simpa using hkey), List.lookup_cons, List.lookup_cons, ih]
      by_cases hk : k = k'
      · subst hk
        simp [hkey]
      · rw [beq_eq_false_iff_ne.2 hk]

theorem Keyed.put_of_not_mem {α β : Type} [DecidableEq α] {key : α} {l : List (α × β)}
    (h : key ∉ l.map Prod.fst) (value : β) : Keyed.put key value l = l ++ [(key, value)] := by
  induction l with
  | nil => rfl
  | cons entry l ih =>
    obtain ⟨k, v⟩ := entry
    rw [List.map_cons, List.mem_cons, not_or] at h
    have hk : k ≠ key := fun hk => h.1 hk.symm
    simp only [Keyed.put, if_neg hk, ih h.2, List.cons_append]

/-- A key that is new comes last, and one that is there keeps its place. -/
theorem Keyed.keys_put {α β : Type} [DecidableEq α] (key : α) (value : β) (l : List (α × β)) :
    (Keyed.put key value l).map Prod.fst =
      if key ∈ l.map Prod.fst then l.map Prod.fst else l.map Prod.fst ++ [key] := by
  split
  · rename_i hmem
    induction l with
    | nil => exact (List.not_mem_nil hmem).elim
    | cons entry l ih =>
      obtain ⟨k, v⟩ := entry
      rw [Keyed.put]
      split
      · rfl
      · rename_i hk
        rw [List.map_cons, List.map_cons,
          ih ((List.mem_cons.1 hmem).resolve_left fun h => hk h.symm)]
  · rename_i hmem
    rw [Keyed.put_of_not_mem hmem, List.map_append]
    rfl

/-- Putting an entry adds no key but its own. -/
theorem Keyed.mem_keys_put {α β : Type} [DecidableEq α] {key k : α} {value : β}
    {l : List (α × β)} (h : k ∈ (Keyed.put key value l).map Prod.fst) :
    k = key ∨ k ∈ l.map Prod.fst := by
  induction l with
  | nil => exact .inl (List.mem_singleton.1 h)
  | cons entry l ih =>
    obtain ⟨j, v⟩ := entry
    rw [Keyed.put] at h
    split at h
    · exact .inr h
    · rcases List.mem_cons.1 h with rfl | h
      · exact .inr List.mem_cons_self
      · exact (ih h).imp_right (List.mem_cons_of_mem _)

theorem Keyed.mem_keys_putAll {α β : Type} [DecidableEq α] {k : α} {entries l : List (α × β)}
    (h : k ∈ (Keyed.putAll entries l).map Prod.fst) :
    k ∈ entries.map Prod.fst ∨ k ∈ l.map Prod.fst := by
  induction entries generalizing l with
  | nil => exact .inr h
  | cons entry entries ih =>
    rcases ih h with h | h
    · exact .inl (List.mem_cons_of_mem _ h)
    · rcases Keyed.mem_keys_put h with rfl | h
      · exact .inl List.mem_cons_self
      · exact .inr h

/-- Putting an entry repeats no key. -/
theorem Keyed.nodup_keys_put {α β : Type} [DecidableEq α] {key : α} {value : β}
    {l : List (α × β)} (h : (l.map Prod.fst).Nodup) :
    ((Keyed.put key value l).map Prod.fst).Nodup := by
  induction l with
  | nil => exact List.nodup_singleton key
  | cons entry l ih =>
    obtain ⟨j, v⟩ := entry
    rw [List.map_cons, List.nodup_cons] at h
    rw [Keyed.put]
    split
    · exact List.nodup_cons.2 h
    · next hj =>
      rw [List.map_cons, List.nodup_cons]
      refine ⟨fun hmem => ?_, ih h.2⟩
      rcases Keyed.mem_keys_put hmem with hkey | hmem
      · exact hj hkey
      · exact h.1 hmem

theorem Keyed.nodup_keys_putAll {α β : Type} [DecidableEq α] {entries l : List (α × β)}
    (h : (l.map Prod.fst).Nodup) : ((Keyed.putAll entries l).map Prod.fst).Nodup := by
  induction entries generalizing l with
  | nil => exact h
  | cons entry entries ih => exact ih (Keyed.nodup_keys_put h)

/-- Without its repetitions a list repeats nothing. -/
theorem nodup_eraseDups {α : Type} [BEq α] [LawfulBEq α] (l : List α) : l.eraseDups.Nodup := by
  induction hlength : l.length using Nat.strongRecOn generalizing l with
  | _ n ih =>
    cases l with
    | nil => exact List.nodup_nil
    | cons a rest =>
      rw [List.eraseDups_cons, List.nodup_cons]
      refine ⟨?_, ih _ ?_ _ rfl⟩
      · rw [List.mem_eraseDups]
        simp
      · rw [← hlength, List.length_cons]
        exact Nat.lt_succ_of_le (List.length_filter_le _ _)

theorem eraseDups_append_singleton {α : Type} [DecidableEq α] (l : List α) (a : α) :
    (l ++ [a]).eraseDups = if a ∈ l then l.eraseDups else l.eraseDups ++ [a] := by
  rw [List.eraseDups_append, List.removeAll]
  split
  · rename_i hmem
    rw [List.filter_cons_of_neg (by simpa using hmem)]
    exact List.append_nil _
  · rename_i hmem
    rw [List.filter_cons_of_pos (by simpa using hmem)]
    rfl

/-- The keys stand in the order in which they came first. -/
theorem Keyed.keys_putAll {α β : Type} [DecidableEq α] (entries : List (α × β)) :
    (Keyed.putAll entries []).map Prod.fst = (entries.map Prod.fst).eraseDups := by
  induction entries using List.reverseRecOn with
  | nil => rfl
  | append_singleton entries entry ih =>
    have hput : Keyed.putAll (entries ++ [entry]) [] =
        Keyed.put entry.1 entry.2 (Keyed.putAll entries []) := by
      simp only [Keyed.putAll, List.foldl_append, List.foldl_cons, List.foldl_nil]
    rw [hput, Keyed.keys_put, ih, List.map_append, List.map_singleton, eraseDups_append_singleton]
    simp only [List.mem_eraseDups]

/-- The last value that was put under a key counts. -/
theorem Keyed.lookup_putAll {α β : Type} [DecidableEq α] (k : α) (entries l : List (α × β)) :
    (Keyed.putAll entries l).lookup k = (entries.reverse.lookup k).or (l.lookup k) := by
  induction entries generalizing l with
  | nil => rfl
  | cons entry entries ih =>
    have hput : Keyed.putAll (entry :: entries) l =
        Keyed.putAll entries (Keyed.put entry.1 entry.2 l) := rfl
    have hone : [entry].lookup k = if k = entry.1 then some entry.2 else none := by
      obtain ⟨key, value⟩ := entry
      by_cases h : k = key
      · simp [h]
      · simp [List.lookup_cons, beq_false_of_ne h, h]
    rw [hput, ih, Keyed.lookup_put, List.reverse_cons, List.lookup_append, hone, Option.or_assoc]
    split
    · rfl
    · rfl

theorem lookup_flatMap {α β γ : Type} [BEq β] (k : β) (f : α → List (β × γ)) (l : List α) :
    (l.flatMap f).lookup k = l.findSome? fun a => (f a).lookup k := by
  induction l with
  | nil => rfl
  | cons a l ih =>
    rw [List.flatMap_cons, List.lookup_append, List.findSome?_cons, ih]
    cases (f a).lookup k <;> rfl

/-- An entry is found under its key if no key stands twice. -/
theorem Keyed.lookup_of_mem {α β : Type} [BEq α] [LawfulBEq α] {k : α} {v : β} {l : List (α × β)}
    (h : (l.map Prod.fst).Nodup) (hmem : (k, v) ∈ l) : l.lookup k = some v := by
  induction l with
  | nil => exact (List.not_mem_nil hmem).elim
  | cons entry l ih =>
    rw [List.map_cons, List.nodup_cons] at h
    rcases List.mem_cons.1 hmem with rfl | hrest
    · exact List.lookup_cons_self
    · have hne : k ≠ entry.1 := fun hk => h.1 (hk ▸ List.mem_map_of_mem hrest)
      obtain ⟨key, value⟩ := entry
      rw [List.lookup_cons, beq_false_of_ne hne]
      exact ih h.2 hrest

/-- Entries without a key that stands twice are given by their keys and what is found under them. -/
theorem Keyed.eq_map_lookup {α β : Type} [BEq α] [LawfulBEq α] {l : List (α × β)}
    (h : (l.map Prod.fst).Nodup) (default : β) :
    l = (l.map Prod.fst).map fun k => (k, (l.lookup k).getD default) := by
  rw [List.map_map]
  refine (List.map_id l).symm.trans (List.map_congr_left fun entry hentry => ?_)
  rw [Function.comp_apply, Keyed.lookup_of_mem h hentry]
  rfl

end TypeExport

/-!
## Lists related member by member

An action on every member of a list succeeds if it succeeds for each, and then the results stand in
the order of the members.  Entries put one after the other stay related to those of another list
under the same keys.
-/

namespace TypeExport

section Members

variable {α β : Type} {R : α → β → Prop} {l : List α} {m : List β} {a : α} {b : β}

theorem exists_right_of_mem (h : List.Forall₂ R l m) (ha : a ∈ l) : ∃ b ∈ m, R a b := by
  induction h with
  | nil => exact (List.not_mem_nil ha).elim
  | cons hfirst _ ih =>
    rcases List.mem_cons.1 ha with rfl | ha
    · exact ⟨_, List.mem_cons_self, hfirst⟩
    · obtain ⟨b, hb, hab⟩ := ih ha
      exact ⟨b, List.mem_cons_of_mem _ hb, hab⟩

theorem exists_left_of_mem (h : List.Forall₂ R l m) (hb : b ∈ m) : ∃ a ∈ l, R a b :=
  exists_right_of_mem (R := flip R) h.flip hb

/-- A related list exists if every item has a related one. -/
theorem exists_forall₂_iff : (∃ m, List.Forall₂ R l m) ↔ ∀ a ∈ l, ∃ b, R a b := by
  induction l with
  | nil => simp
  | cons a l ih =>
    constructor
    · rintro ⟨m, hm⟩
      obtain ⟨b, rest, hb, hrest, rfl⟩ := List.forall₂_cons_left_iff.1 hm
      rw [List.forall_mem_cons]
      exact ⟨⟨b, hb⟩, ih.1 ⟨rest, hrest⟩⟩
    · intro h
      rw [List.forall_mem_cons] at h
      obtain ⟨b, hb⟩ := h.1
      obtain ⟨rest, hrest⟩ := ih.2 h.2
      exact ⟨b :: rest, .cons hb hrest⟩

end Members

section Actions

variable {ε α β γ : Type}

/-- A list is mapped if each item is, one by one. -/
theorem mapM_eq_ok_iff {f : α → Except ε β} {l : List α} {m : List β} :
    l.mapM f = .ok m ↔ List.Forall₂ (fun a b => f a = .ok b) l m := by
  induction l generalizing m with
  | nil =>
    rw [List.mapM_nil, List.forall₂_nil_left_iff]
    constructor
    · intro h
      cases h
      rfl
    · rintro rfl
      rfl
  | cons a l ih =>
    rw [List.mapM_cons, List.forall₂_cons_left_iff]
    cases ha : f a with
    | error e =>
      constructor
      · intro h
        cases h
      · rintro ⟨b, rest, hb, _⟩
        cases hb
    | ok b =>
      cases hl : l.mapM f with
      | error e =>
        constructor
        · intro h
          cases h
        · rintro ⟨_, rest, _, hrest, _⟩
          rw [← ih, hl] at hrest
          cases hrest
      | ok rest =>
        constructor
        · intro h
          cases h
          exact ⟨b, rest, rfl, ih.1 hl, rfl⟩
        · rintro ⟨_, rest', hb, hrest, rfl⟩
          cases hb
          rw [← ih, hl] at hrest
          cases hrest
          rfl

/-- An action on the members of parts, one part after the other, is one action on all members. -/
theorem mapM_flatMap {n : Type → Type} [Monad n] [LawfulMonad n] (parts : α → List β)
    (f : β → n γ) (l : List α) :
    (l.flatMap parts).mapM f = List.flatten <$> l.mapM fun a => (parts a).mapM f := by
  induction l with
  | nil => simp
  | cons a l ih => simp [List.mapM_append, List.mapM_cons, ih, functor_norm]

end Actions

section Entries

variable {κ α β : Type} [DecidableEq κ] {R : α → β → Prop}

/-- Entries under one key with related values. -/
def SameKey (R : α → β → Prop) (x : κ × α) (y : κ × β) : Prop :=
  x.1 = y.1 ∧ R x.2 y.2

/-- Related entries put into related tables give related tables. -/
theorem forall₂_put {x : κ × α} {y : κ × β} (h : SameKey R x y) {l : List (κ × α)}
    {m : List (κ × β)} (hl : List.Forall₂ (SameKey R) l m) :
    List.Forall₂ (SameKey R) (Keyed.put x.1 x.2 l) (Keyed.put y.1 y.2 m) := by
  obtain ⟨key, value⟩ := x
  obtain ⟨_, value'⟩ := y
  obtain ⟨rfl, hvalue⟩ := h
  induction hl with
  | nil => exact .cons ⟨rfl, hvalue⟩ .nil
  | @cons first first' rest rest' hfirst hrest ih =>
    obtain ⟨k, v⟩ := first
    obtain ⟨_, v'⟩ := first'
    obtain ⟨rfl, hv⟩ := hfirst
    simp only [Keyed.put]
    split
    · exact .cons ⟨rfl, hvalue⟩ hrest
    · exact .cons ⟨rfl, hv⟩ ih

theorem forall₂_putAll {l : List (κ × α)} {m : List (κ × β)}
    (h : List.Forall₂ (SameKey R) l m) :
    List.Forall₂ (SameKey R) (Keyed.putAll l []) (Keyed.putAll m []) := by
  unfold Keyed.putAll
  apply List.rel_foldl (P := List.Forall₂ (SameKey R)) (R := SameKey R)
  · intro _ _ hl _ _ hentry
    exact forall₂_put hentry hl
  · exact .nil
  · exact h

end Entries

end TypeExport

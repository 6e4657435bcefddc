import Mathlib.Data.List.Nodup
import TypeExport.Proofs.File.Frame

/-!
# Files that are written one after the other

Two paths may denote one location.  After some writes every written path leads to a file, and the
last write at its location says what stands in it.
-/

namespace TypeExport.FileTree

variable {κ : Type} {t u : FileTree κ} {cwd l : Location}

/-- The content that the last one of some writes leaves at a location. -/
def lastAt (cwd : Location) : List (Path × κ) → Location → Option κ
  | [], _ => none
  | (p, c) :: later, l =>
    match lastAt cwd later l with
    | some c' => some c'
    | none => if p.locate cwd = l then some c else none

theorem lastAt_append (first later : List (Path × κ)) :
    lastAt cwd (first ++ later) l = (lastAt cwd later l).or (lastAt cwd first l) := by
  induction first with
  | nil => simp [lastAt]
  | cons w first ih =>
    rw [List.cons_append, lastAt, lastAt, ih]
    cases lastAt cwd later l <;> rfl

/-- At the location of the last write stands what it wrote. -/
theorem lastAt_concat (writes : List (Path × κ)) (p : Path) (c : κ) (l : Location) :
    lastAt cwd (writes ++ [(p, c)]) l =
      if p.locate cwd = l then some c else lastAt cwd writes l := by
  rw [lastAt_append]
  by_cases hl : p.locate cwd = l
  · simp [lastAt, hl]
  · simp [lastAt, hl]

/-- The last text written to a place is one of those written. -/
theorem mem_of_lastAt {writes : List (Path × κ)} {c : κ} (h : lastAt cwd writes l = some c) :
    ∃ p, (p, c) ∈ writes ∧ p.locate cwd = l := by
  induction writes with
  | nil => cases h
  | cons w later ih =>
    rw [lastAt] at h
    split at h
    · cases h
      obtain ⟨p, hp, hl⟩ := ih ‹_›
      exact ⟨p, List.mem_cons_of_mem _ hp, hl⟩
    · split at h
      · cases h
        exact ⟨w.1, List.mem_cons_self, ‹_›⟩
      · cases h

/-- The place of every write has a last text. -/
theorem lastAt_isSome {writes : List (Path × κ)} {p : Path} {c : κ} (h : (p, c) ∈ writes) :
    ∃ c', lastAt cwd writes (p.locate cwd) = some c' := by
  induction writes with
  | nil => cases h
  | cons w later ih =>
    rw [lastAt]
    rcases List.mem_cons.1 h with rfl | hmem
    · cases lastAt cwd later (p.locate cwd) with
      | some c' => exact ⟨c', rfl⟩
      | none => exact ⟨c, if_pos rfl⟩
    · obtain ⟨c', hc'⟩ := ih hmem
      rw [hc']
      exact ⟨c', rfl⟩

/-- The last write at a location where all writes agree. -/
theorem lastAt_eq_some {writes : List (Path × κ)} {p : Path} {c : κ} (hmem : (p, c) ∈ writes)
    (hsame : ∀ q d, (q, d) ∈ writes → q.locate cwd = p.locate cwd → d = c) :
    lastAt cwd writes (p.locate cwd) = some c := by
  obtain ⟨d, hd⟩ : ∃ d, lastAt cwd writes (p.locate cwd) = some d := lastAt_isSome hmem
  obtain ⟨q, hq, hl⟩ := mem_of_lastAt hd
  rw [hd, hsame q d hq hl]

theorem lastAt_eq_none {writes : List (Path × κ)}
    (h : ∀ p c, (p, c) ∈ writes → p.locate cwd ≠ l) : lastAt cwd writes l = none := by
  cases hlast : lastAt cwd writes l with
  | none => rfl
  | some c =>
    obtain ⟨p, hp, hl⟩ := mem_of_lastAt hlast
    exact absurd hl (h p c hp)

/-- Writes at pairwise different locations may come in any order. -/
theorem lastAt_of_perm {writes others : List (Path × κ)} (h : writes.Perm others)
    (hdistinct : (writes.map fun w => w.1.locate cwd).Nodup) (l : Location) :
    lastAt cwd writes l = lastAt cwd others l := by
  cases hlast : lastAt cwd writes l with
  | some c =>
    obtain ⟨p, hp, rfl⟩ := mem_of_lastAt hlast
    refine (lastAt_eq_some (h.mem_iff.1 hp) fun q d hq hl => ?_).symm
    have hsame : (q, d) = (p, c) := List.inj_on_of_nodup_map hdistinct (h.mem_iff.2 hq) hp hl
    exact (Prod.mk.inj hsame).2
  | none =>
    refine (lastAt_eq_none fun p c hp hl => ?_).symm
    obtain ⟨d, hd⟩ : ∃ d, lastAt cwd writes (p.locate cwd) = some d :=
      lastAt_isSome (h.mem_iff.2 hp)
    rw [hl, hlast] at hd
    cases hd

/-- Every written path leads to a file with the content of the last write there. -/
def Reflects (t : FileTree κ) (cwd : Location) (writes : List (Path × κ)) : Prop :=
  ∀ p c, (p, c) ∈ writes → ∃ c', lastAt cwd writes (p.locate cwd) = some c' ∧
    t.lookup cwd p = .ok (p.locate cwd, some (.file c'))

theorem Reflects.nil (t : FileTree κ) : t.Reflects cwd [] :=
  fun _ _ h => (List.not_mem_nil h).elim

/-- One more write: at its location the new content replaces the old one. -/
theorem Reflects.step {writes : List (Path × κ)} {p : Path} {c : κ} (h : t.Reflects cwd writes)
    (hwrote : Wrote t cwd p c u) : u.Reflects cwd (writes ++ [(p, c)]) := by
  obtain ⟨hkeeps, hkept, hlookup⟩ := hwrote
  have hfound : u.find? (p.locate cwd) = some (.file c) := (lookup_eq_ok hlookup).2.symm
  intro q d hmem
  rw [lastAt_concat]
  rcases List.mem_append.1 hmem with hold | hnew
  · obtain ⟨c', hc', hq⟩ := h q d hold
    rw [lookup_of_keepsDirectories hkeeps hq]
    by_cases hl : p.locate cwd = q.locate cwd
    · rw [if_pos hl, ← hl, hfound]
      exact ⟨c, rfl, rfl⟩
    · rw [if_neg hl, hkept _ (Ne.symm hl) _ (lookup_eq_ok hq).2.symm]
      exact ⟨c', hc', rfl⟩
  · cases List.mem_singleton.1 hnew
    rw [if_pos rfl]
    exact ⟨c, rfl, hlookup⟩

/-- Directories that are made change no file. -/
theorem Reflects.of_isExtendedBy {writes : List (Path × κ)} (h : t.Reflects cwd writes)
    (hextended : t.IsExtendedBy u) : u.Reflects cwd writes := by
  intro p c hmem
  obtain ⟨c', hc', hp⟩ := h p c hmem
  refine ⟨c', hc', ?_⟩
  rw [lookup_of_keepsDirectories hextended.keepsDirectories hp,
    hextended _ _ (lookup_eq_ok hp).2.symm]

theorem Reflects.read {writes : List (Path × κ)} {p : Path} {c : κ} (h : t.Reflects cwd writes)
    (hmem : (p, c) ∈ writes) :
    ∃ c', lastAt cwd writes (p.locate cwd) = some c' ∧ t.read cwd p = .ok c' := by
  obtain ⟨c', hc', hlookup⟩ := h p c hmem
  exact ⟨c', hc', read_of_lookup hlookup⟩

/-- What speaks about a tree, the directories that were made in it and the files that were written,
and goes on to hold with every further one. -/
structure KeepsUp (cwd : Location)
    (P : List Path → List (Path × κ) → FileTree κ → Prop) : Prop where
  make : ∀ made writes t u p, P made writes t → t.ensureDirectory cwd p = (u, none) →
    P (made ++ [p]) writes u
  output : ∀ made writes t u p c, P made writes t → t.writeOutput cwd p c = (u, none) →
    P (made ++ [p.parent]) (writes ++ [(p, c)]) u

theorem keepsUp_reflects (cwd : Location) :
    KeepsUp cwd fun _ writes (t : FileTree κ) => t.Reflects cwd writes where
  make _ _ t u p h hmade := by
    have hextended := ensureDirectory_isExtendedBy t cwd p
    rw [hmade] at hextended
    exact h.of_isExtendedBy hextended
  output _ _ _ _ _ _ h hwrite := h.step (writeOutput_wrote hwrite)

end TypeExport.FileTree

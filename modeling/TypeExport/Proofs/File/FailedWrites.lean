import TypeExport.Proofs.File.Making

/-!
# Writes that may fail

A write that fails leaves no file behind, although it may have made directories.  Whether a file of a
plain name can be written into a directory that is there depends on the name and on whether a directory
has the name already.  No write into such a directory changes which directories there are.
-/

namespace TypeExport.FileTree

variable {κ : Type} {t u v : FileTree κ} {cwd l : Location} {p : Path} {name : String} {c d : κ}

/-!
## Files after a write
-/

/-- Making a directory makes no file. -/
theorem file_of_makeDirectory (h : t.makeDirectory cwd p = .ok u)
    (hfile : u.find? l = some (.file d)) : t.find? l = some (.file d) := by
  unfold makeDirectory at h
  split at h
  · cases h
  · cases h
  · rename_i k hk
    cases h
    have hne : k ≠ [] := by
      rintro rfl
      cases (lookup_eq_ok hk).2
    by_cases hl : l = k
    · rw [hl, find?_insert_self hne] at hfile
      cases hfile
    · rw [find?_insert_of_ne hl] at hfile
      exact hfile

/-- Making directories makes no file, also when it fails. -/
theorem file_of_ensureDirectory (h : (t.ensureDirectory cwd p).1.find? l = some (.file d)) :
    t.find? l = some (.file d) :=
  makeDirectories_of_step (P := fun u => u.find? l = some (.file d) → t.find? l = some (.file d)) _ _
    (fun _ _ _ _ hu hmade hfile => hu (file_of_makeDirectory hmade hfile)) id h

/-- A file behind a write was there before, or holds what is written. -/
theorem file_of_writeFile (h : (t.writeFile cwd p c).1.find? l = some (.file d)) :
    t.find? l = some (.file d) ∨ d = c := by
  unfold writeFile at h
  split at h
  · exact .inl h
  · exact .inl h
  · rename_i k e hdirectory hk
    by_cases hl : l = k
    · have hne : k ≠ [] := by
        rintro rfl
        exact hdirectory (lookup_eq_ok hk).2
      rw [hl, find?_insert_self hne] at h
      cases h
      exact .inr rfl
    · rw [find?_insert_of_ne hl] at h
      exact .inl h

/-- After a write a file is an old one or has the content that was to be written. -/
theorem file_of_writeOutput (h : (t.writeOutput cwd p c).1.find? l = some (.file d)) :
    t.find? l = some (.file d) ∨ d = c := by
  unfold writeOutput at h
  cases hmade : t.ensureDirectory cwd p.parent with
  | mk v e =>
    have hold : v.find? l = some (.file d) → t.find? l = some (.file d) := by
      intro hv
      have hafter : (t.ensureDirectory cwd p.parent).1.find? l = some (.file d) := by
        rw [hmade]
        exact hv
      exact file_of_ensureDirectory hafter
    rw [hmade] at h
    cases e with
    | some e => exact .inl (hold h)
    | none => exact (file_of_writeFile h).imp_left hold

/-!
## Directories after a write
-/

/-- The same locations hold directories. -/
def SameDirectories (t u : FileTree κ) : Prop :=
  ∀ l, t.find? l = some .directory ↔ u.find? l = some .directory

theorem SameDirectories.refl (t : FileTree κ) : SameDirectories t t :=
  fun _ => Iff.rfl

/-- A directory is found in every tree with the same directories. -/
theorem SameDirectories.lookup (h : SameDirectories t u)
    (hp : t.lookup cwd p = .ok (l, some .directory)) : u.lookup cwd p = .ok (l, some .directory) := by
  have hfound : u.find? l = some .directory := (h l).1 (lookup_eq_ok hp).2.symm
  rw [lookup_of_keepsDirectories (fun m => (h m).1) hp, hfound]

/-- Writing a file makes no directory and removes none. -/
theorem sameDirectories_writeFile : SameDirectories t (t.writeFile cwd p c).1 := by
  unfold writeFile
  split
  · exact .refl t
  · exact .refl t
  · rename_i k e hdirectory hk
    have hnot : t.find? k ≠ some .directory := fun hd => hdirectory ((lookup_eq_ok hk).2.trans hd)
    have hne : k ≠ [] := by
      rintro rfl
      exact hnot rfl
    intro m
    by_cases hm : m = k
    · rw [hm, find?_insert_self hne]
      exact ⟨fun h => absurd h hnot, fun h => by cases h⟩
    · rw [find?_insert_of_ne hm]

/-- The entry of a directory is looked up alike in trees with the same directories. -/
theorem SameDirectories.lookup_join (hsame : SameDirectories t u)
    (h : t.lookup cwd p = .ok (l, some .directory)) (hplain : Path.IsPlain name) :
    (∃ e, t.lookup cwd (p.join (.ofString name)) = .error e ∧
        u.lookup cwd (p.join (.ofString name)) = .error e) ∨
      ∃ m, t.lookup cwd (p.join (.ofString name)) = .ok (m, t.find? m) ∧
        u.lookup cwd (p.join (.ofString name)) = .ok (m, u.find? m) := by
  by_cases husable : IsUsable (p.join (.ofString name))
  · rw [lookup_of_isUsable husable, lookup_of_isUsable husable]
    rw [Path.join_of_isPlain p hplain]
    obtain ⟨-, hfollow, hl⟩ := follow_of_lookup h
    obtain ⟨-, hfollow', hl'⟩ := follow_of_lookup (hsame.lookup h)
    have hone : ∀ v : FileTree κ, some .directory = v.find? l → v.follow l [name] =
        if nameLimit < name.utf8ByteSize then .error .nameTooLong else .ok (Path.step l name) := by
      intro v hv
      rw [follow, ← hv]
      rfl
    have hend : t.follow l [name] = u.follow l [name] := by
      rw [hone t hl, hone u hl']
    have hentry : t.follow (if p.isAbsolute then [] else cwd) (p.parts ++ [name]) =
        u.follow (if p.isAbsolute then [] else cwd) (p.parts ++ [name]) := by
      rw [follow_append, follow_append, hfollow, hfollow']
      exact hend
    change (∃ e, Except.map _ (t.follow (if p.isAbsolute then [] else cwd) (p.parts ++ [name])) = _ ∧
      Except.map _ (u.follow (if p.isAbsolute then [] else cwd) (p.parts ++ [name])) = _) ∨
      ∃ m, Except.map _ (t.follow (if p.isAbsolute then [] else cwd) (p.parts ++ [name])) = _ ∧
        Except.map _ (u.follow (if p.isAbsolute then [] else cwd) (p.parts ++ [name])) = _
    rw [← hentry]
    cases t.follow (if p.isAbsolute then [] else cwd) (p.parts ++ [name]) with
    | error e => exact .inl ⟨e, rfl, rfl⟩
    | ok m => exact .inr ⟨m, rfl, rfl⟩
  · obtain ⟨e, he⟩ := lookup_of_not_isUsable (κ := κ) husable
    exact .inl ⟨e, he t cwd, he u cwd⟩

/-- Whether a plain name can be written into a directory does not depend on the files of the tree. -/
theorem SameDirectories.writeFile_join (hsame : SameDirectories t u)
    (h : t.lookup cwd p = .ok (l, some .directory)) (hplain : Path.IsPlain name) :
    (t.writeFile cwd (p.join (.ofString name)) c).2 =
      (u.writeFile cwd (p.join (.ofString name)) c).2 := by
  obtain ⟨e, ht, hu⟩ | ⟨m, ht, hu⟩ := hsame.lookup_join h hplain
  · unfold writeFile
    rw [ht, hu]
  · by_cases hdirectory : t.find? m = some .directory
    · rw [hdirectory] at ht
      rw [(hsame m).1 hdirectory] at hu
      unfold writeFile
      rw [ht, hu]
    · rw [writeFile_of_free ht hdirectory,
        writeFile_of_free hu fun h' => hdirectory ((hsame m).2 h')]

/-- A file of a plain name is refused alike in trees with the same directories. -/
theorem SameDirectories.writeOutput_join (hsame : SameDirectories t u)
    (h : t.lookup cwd p = .ok (l, some .directory)) (hplain : Path.IsPlain name) :
    (t.writeOutput cwd (p.join (.ofString name)) c).2 =
      (u.writeOutput cwd (p.join (.ofString name)) c).2 := by
  rw [writeOutput_of_lookup h hplain, writeOutput_of_lookup (hsame.lookup h) hplain]
  dsimp only
  rw [hsame.writeFile_join h hplain]

theorem sameDirectories_writeOutput (h : t.lookup cwd p = .ok (l, some .directory))
    (hplain : Path.IsPlain name) :
    SameDirectories t (t.writeOutput cwd (p.join (.ofString name)) c).1 := by
  rw [writeOutput_of_lookup h hplain]
  exact sameDirectories_writeFile

end TypeExport.FileTree

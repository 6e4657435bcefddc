import TypeExport.File.Write
import TypeExport.Proofs.File.PlainName
import TypeExport.Proofs.File.Proper

/-!
# Files in a directory that was made

A directory that was made is found, and making it once more changes nothing.  A file of a plain name
is written into it without a change elsewhere, and adds its name to those of the directory.
-/

namespace TypeExport.FileTree

variable {κ : Type} {t u : FileTree κ} {cwd l m : Location} {p : Path} {name : String} {c : κ}

/-- Where an existing directory will do, the directory is there. -/
theorem lookup_of_settle {e : FileError} (h : t.settle cwd p e = (u, none)) :
    u.lookup cwd p = .ok (p.locate cwd, some .directory) := by
  unfold settle at h
  split at h
  · cases h
  · split at h
    · rename_i hdirectory
      cases h
      unfold pathIsDirectory at hdirectory
      split at hdirectory
      · rename_i l hl
        rw [hl, (lookup_eq_ok hl).1]
      · cases hdirectory
      · cases hdirectory
      · cases hdirectory
    · cases h
    · cases h

/-- A directory that was made is found. -/
theorem lookup_of_makeDirectory (h : t.makeDirectory cwd p = .ok u) :
    u.lookup cwd p = .ok (p.locate cwd, some .directory) := by
  have hextended := makeDirectory_isExtendedBy h
  unfold makeDirectory at h
  split at h
  · cases h
  · cases h
  · rename_i l hl
    cases h
    obtain ⟨hlocate, hnone⟩ := lookup_eq_ok hl
    have hne : l ≠ [] := by
      rintro rfl
      cases hnone
    rw [lookup_of_keepsDirectories hextended.keepsDirectories hl, find?_insert_self hne, hlocate]

/-- A directory that was made with its parents is found. -/
theorem lookup_of_makeDirectories {slashes : Nat} {reversed : List String}
    (h : t.makeDirectories cwd slashes reversed = (u, none)) :
    u.lookup cwd { slashes, parts := reversed.reverse } =
      .ok (Path.locate cwd { slashes, parts := reversed.reverse }, some .directory) := by
  cases reversed with
  | nil =>
    rw [makeDirectories] at h
    split at h
    · rename_i v hmade
      cases h
      exact lookup_of_makeDirectory hmade
    · exact lookup_of_settle h
  | cons part above =>
    rw [makeDirectories] at h
    split at h
    · rename_i v hmade
      cases h
      exact lookup_of_makeDirectory hmade
    · split at h
      · cases h
      · split at h
        · rename_i v hmade
          cases h
          exact lookup_of_makeDirectory hmade
        · cases h
        · exact lookup_of_settle h
    · exact lookup_of_settle h

/-- A directory that was made is found. -/
theorem lookup_of_ensureDirectory (h : t.ensureDirectory cwd p = (u, none)) :
    u.lookup cwd p = .ok (p.locate cwd, some .directory) := by
  have hlookup := lookup_of_makeDirectories h
  rw [List.reverse_reverse] at hlookup
  exact hlookup

theorem settle_of_lookup (h : t.lookup cwd p = .ok (l, some .directory)) {e : FileError}
    (he : e ≠ .nullCharacter) : t.settle cwd p e = (t, none) := by
  have hdirectory : t.pathIsDirectory cwd p = .ok true := by
    unfold pathIsDirectory
    rw [h]
  unfold settle
  rw [if_neg he, hdirectory]

theorem makeDirectory_of_lookup (h : t.lookup cwd p = .ok (l, some .directory)) :
    t.makeDirectory cwd p = .error .alreadyExists := by
  unfold makeDirectory
  rw [h]

/-- Making a directory that is there changes nothing. -/
theorem makeDirectories_of_lookup {slashes : Nat} {reversed : List String}
    (h : t.lookup cwd { slashes, parts := reversed.reverse } = .ok (l, some .directory)) :
    t.makeDirectories cwd slashes reversed = (t, none) := by
  cases reversed with
  | nil =>
    rw [List.reverse_nil] at h
    rw [makeDirectories, makeDirectory_of_lookup h]
    exact settle_of_lookup h (by decide)
  | cons part above =>
    rw [makeDirectories]
    rw [makeDirectory_of_lookup h]
    exact settle_of_lookup h (by decide)

/-- Making a directory that is there changes nothing. -/
theorem ensureDirectory_of_lookup (h : t.lookup cwd p = .ok (l, some .directory)) :
    t.ensureDirectory cwd p = (t, none) := by
  refine makeDirectories_of_lookup (l := l) ?_
  rw [List.reverse_reverse]
  exact h

/-- The place of a name in a directory that is there. -/
theorem lookup_join (h : t.lookup cwd p = .ok (l, some .directory)) (hplain : Path.IsPlain name)
    (hname : IsEntryName name) (hfits : (p.join (.ofString name)).fits = true) :
    t.lookup cwd (p.join (.ofString name)) = .ok (l ++ [name], t.find? (l ++ [name])) := by
  obtain ⟨husable, hfollow, hfound⟩ := follow_of_lookup h
  rw [Path.join_of_isPlain p hplain] at hfits ⊢
  refine lookup_of_follow ⟨?_, hfits⟩ ?_
  · have hnull := husable.noNull
    unfold hasNull at hnull ⊢
    rw [List.any_append, hnull]
    simpa using hname.noNull
  · show t.follow (if p.isAbsolute then [] else cwd) (p.parts ++ [name]) = _
    rw [follow_append, hfollow]
    show t.follow l [name] = _
    rw [follow_one hfound.symm hname.short, Path.step, if_neg hname.notParent]

theorem parent_join (p : Path) (hplain : Path.IsPlain name) :
    (p.join (.ofString name)).parent = p := by
  rw [Path.join_of_isPlain p hplain]
  unfold Path.parent
  rw [List.dropLast_concat]

/-- Writing a file of a plain name begins with making its directory. -/
theorem writeOutput_of_made (h : t.ensureDirectory cwd p = (u, none))
    (hplain : Path.IsPlain name) :
    t.writeOutput cwd (p.join (.ofString name)) c =
      u.writeOutput cwd (p.join (.ofString name)) c := by
  have hagain := ensureDirectory_of_lookup (lookup_of_ensureDirectory h)
  unfold writeOutput
  rw [parent_join p hplain, h, hagain]

theorem writeFile_of_free (h : t.lookup cwd p = .ok (l, t.find? l))
    (hfree : t.find? l ≠ some .directory) :
    t.writeFile cwd p c = (t.insert l (.file c), none) := by
  unfold writeFile
  rw [h]
  cases hfound : t.find? l with
  | none => rfl
  | some e =>
    cases e with
    | directory => exact absurd hfound hfree
    | file old => rfl

/-- In a directory that is there nothing is made before a file is written. -/
theorem writeOutput_of_lookup (h : t.lookup cwd p = .ok (l, some .directory))
    (hplain : Path.IsPlain name) :
    t.writeOutput cwd (p.join (.ofString name)) c =
      ((t.writeFile cwd (p.join (.ofString name)) c).1,
        (t.writeFile cwd (p.join (.ofString name)) c).2.map
          (WriteError.ofCause (.artifact (p.join (.ofString name))))) := by
  unfold writeOutput
  rw [parent_join p hplain, ensureDirectory_of_lookup h]

/-- Writing a file of a plain name into a directory that is there. -/
theorem writeOutput_join (h : t.lookup cwd p = .ok (l, some .directory))
    (hplain : Path.IsPlain name) (hname : IsEntryName name)
    (hfits : (p.join (.ofString name)).fits = true)
    (hfree : t.find? (l ++ [name]) ≠ some .directory) :
    t.writeOutput cwd (p.join (.ofString name)) c =
      (t.insert (l ++ [name]) (.file c), none) := by
  rw [writeOutput_of_lookup h hplain, writeFile_of_free (lookup_join h hplain hname hfits) hfree]
  rfl

/-- A directory is found as before when a file is put into it. -/
theorem lookup_insert (h : t.lookup cwd p = .ok (l, some .directory))
    (hfree : t.find? (l ++ [name]) ≠ some .directory) :
    (t.insert (l ++ [name]) (.file c)).lookup cwd p = .ok (l, some .directory) := by
  have hkeeps : t.KeepsDirectories (t.insert (l ++ [name]) (.file c)) := by
    intro m hm
    rw [find?_insert_of_ne, hm]
    rintro rfl
    exact hfree hm
  have hfound : t.find? l = some .directory := (lookup_eq_ok h).2.symm
  rw [lookup_of_keepsDirectories hkeeps h, hkeeps l hfound]

theorem mem_names {k : Location} {e : Entry κ} (h : (k, e) ∈ t.entries) (hk : k = l ++ [name]) :
    name ∈ t.names l := by
  unfold names
  refine List.mem_filterMap.2 ⟨(k, e), h, ?_⟩
  rw [hk]
  simp

/-- A new name comes behind those that a directory has. -/
theorem names_insert (h : name ∉ t.names l) (e : Entry κ) :
    (t.insert (l ++ [name]) e).names l = t.names l ++ [name] := by
  have hkey : l ++ [name] ∉ t.entries.map Prod.fst := by
    intro hmem
    obtain ⟨⟨k, found⟩, hentry, hk⟩ := List.mem_map.1 hmem
    exact h (mem_names hentry hk)
  unfold names FileTree.insert
  rw [Keyed.put_of_not_mem hkey, List.filterMap_append]
  simp

theorem find?_of_not_mem_names (h : name ∉ t.names l) : t.find? (l ++ [name]) = none := by
  unfold find?
  rw [if_neg (by simp)]
  rw [List.lookup_eq_none_iff]
  intro entry hentry
  rw [bne_iff_ne]
  intro hk
  exact h (mem_names hentry hk.symm)

/-- The last name of a path that can be followed is one that the file system takes. -/
theorem short_of_follow {parts : List String} (h : t.follow l (parts ++ [name]) = .ok m) :
    name.utf8ByteSize ≤ nameLimit := by
  rw [follow_append] at h
  cases hfront : t.follow l parts with
  | error e =>
    rw [hfront] at h
    cases h
  | ok d =>
    rw [hfront] at h
    change t.follow d [name] = _ at h
    rw [follow] at h
    split at h
    · cases h
    · cases h
    · split at h
      · cases h
      · rename_i hshort
        exact Nat.not_lt.1 hshort

/-- A file that can be read stands at its place and has a name and a path that the file system
takes. -/
theorem found_of_read (hplain : Path.IsPlain name)
    (h : t.read cwd (p.join (.ofString name)) = .ok c) :
    name.utf8ByteSize ≤ nameLimit ∧ (p.join (.ofString name)).fits = true ∧
      t.find? (p.locate cwd ++ [name]) = some (.file c) := by
  unfold read at h
  split at h
  · rename_i l content hlookup
    cases h
    obtain ⟨hlocate, hfound⟩ := lookup_eq_ok hlookup
    obtain ⟨husable, hfollow, -⟩ := follow_of_lookup hlookup
    rw [Path.locate_join_of_isPlain cwd p hplain] at hlocate
    rw [Path.join_of_isPlain p hplain] at hfollow
    rw [← hlocate]
    exact ⟨short_of_follow hfollow, husable.fits, hfound.symm⟩
  · cases h
  · cases h
  · cases h

end TypeExport.FileTree

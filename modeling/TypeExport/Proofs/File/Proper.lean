import Mathlib.Data.List.Induction
import TypeExport.Proofs.File.Frame

/-!
# Proper file trees

In a proper tree everything stands in a directory and has a name that paths can spell, so that the
absolute path of a location leads to it if it is not too long.  Operations that start in a directory
keep a tree proper.
-/

namespace TypeExport.FileTree

variable {κ : Type} {t u : FileTree κ} {cwd l m d : Location} {p : Path} {name : String}
  {e : Entry κ}

/-- A name that an entry can have. -/
structure IsEntryName (name : String) : Prop where
  short : name.utf8ByteSize ≤ nameLimit
  notParent : name ≠ ".."
  noNull : '\x00' ∉ name.toList

/-- Everything stands in a directory and has a name that entries can have. -/
structure IsProper (t : FileTree κ) : Prop where
  parent : ∀ l name e, t.find? (l ++ [name]) = some e → t.find? l = some .directory
  entryName : ∀ l name e, t.find? (l ++ [name]) = some e → IsEntryName name

theorem isDirectory_iff : t.isDirectory l = true ↔ t.find? l = some .directory := by
  unfold isDirectory
  split
  · rename_i hfound
    simp [hfound]
  · rename_i hother
    exact ⟨fun h => (Bool.false_ne_true h).elim, fun h => (hother h).elim⟩

/-- It is enough to look at the entries. -/
theorem isProper_of_entries (h : ∀ entry ∈ t.entries, t.isDirectory entry.1.dropLast = true ∧
    ∀ name ∈ entry.1.getLast?,
      name.utf8ByteSize ≤ nameLimit ∧ name ≠ ".." ∧ '\x00' ∉ name.toList) : t.IsProper := by
  have hentry : ∀ l name e, t.find? (l ++ [name]) = some e → (l ++ [name], e) ∈ t.entries := by
    intro l name e hfound
    unfold find? at hfound
    rw [if_neg (by simp)] at hfound
    obtain ⟨before, after, hentries, -⟩ := List.lookup_eq_some_iff.1 hfound
    rw [hentries]
    simp
  constructor
  · intro l name e hfound
    have hdirectory := (h _ (hentry l name e hfound)).1
    rwa [List.dropLast_concat, isDirectory_iff] at hdirectory
  · intro l name e hfound
    obtain ⟨hshort, hparent, hnull⟩ := (h _ (hentry l name e hfound)).2 name (by simp)
    exact ⟨hshort, hparent, hnull⟩

/-- A way in two parts is followed one part after the other. -/
theorem follow_append (first later : List String) :
    t.follow l (first ++ later) = t.follow l first >>= fun m => t.follow m later := by
  induction first generalizing l with
  | nil => rfl
  | cons part rest ih =>
    rw [List.cons_append, follow, follow]
    split
    · rfl
    · rfl
    · split
      · rfl
      · exact ih

theorem follow_one (hl : t.find? l = some .directory) (hname : name.utf8ByteSize ≤ nameLimit) :
    t.follow l [name] = .ok (Path.step l name) := by
  rw [follow, hl]
  dsimp only
  rw [if_neg (Nat.not_lt.2 hname), follow]

/-- Names lead on from a location only if a directory stands there. -/
theorem isDirectory_of_follow {part : String} {rest : List String}
    (h : t.follow l (part :: rest) = .ok m) :
    t.find? l = some .directory ∧ part.utf8ByteSize ≤ nameLimit ∧
      t.follow (Path.step l part) rest = .ok m := by
  rw [follow] at h
  split at h
  · cases h
  · cases h
  · rename_i hl
    split at h
    · cases h
    · rename_i hlimit
      exact ⟨hl, Nat.not_lt.1 hlimit, h⟩

namespace IsProper

theorem dropLast (h : t.IsProper) (hl : t.find? l = some .directory) :
    t.find? l.dropLast = some .directory := by
  rcases List.eq_nil_or_concat' l with rfl | ⟨above, name, rfl⟩
  · exact hl
  · rw [List.dropLast_concat]
    exact h.parent above name _ hl

theorem follow (h : t.IsProper) (hl : t.find? l = some e) : t.follow [] l = .ok l := by
  induction l using List.reverseRecOn generalizing e with
  | nil => rfl
  | append_singleton above name ih =>
    have hname := h.entryName above name e hl
    have habove := h.parent above name e hl
    rw [follow_append, ih habove]
    show t.follow above [name] = _
    rw [follow_one habove hname.short, Path.step, if_neg hname.notParent]

theorem hasNull (h : t.IsProper) (hl : t.find? l = some e) :
    FileTree.hasNull (.ofLocation l) = false := by
  show (l.any fun part => part.toList.contains '\x00') = false
  induction l using List.reverseRecOn generalizing e with
  | nil => rfl
  | append_singleton above name ih =>
    rw [List.any_append, ih (h.parent above name e hl)]
    simpa using (h.entryName above name e hl).noNull

/-- The absolute path of a location leads to what stands there, unless it is too long. -/
theorem lookup (h : t.IsProper) (hl : t.find? l = some e) (hfits : (Path.ofLocation l).fits = true) :
    t.lookup [] (.ofLocation l) = .ok (l, some e) := by
  rw [← hl]
  exact lookup_of_follow ⟨h.hasNull hl, hfits⟩ (h.follow hl)

/-- Following names from a directory ends at a directory or beside the entries of one. -/
theorem of_follow (h : t.IsProper) (hl : t.find? l = some .directory) {parts : List String}
    (hfollow : t.follow l parts = .ok m) :
    t.find? m = some .directory ∨
      ∃ d, ∃ name ∈ parts, m = d ++ [name] ∧ t.find? d = some .directory ∧
        name.utf8ByteSize ≤ nameLimit ∧ name ≠ ".." := by
  induction parts generalizing l with
  | nil =>
    cases hfollow
    exact .inl hl
  | cons part rest ih =>
    obtain ⟨-, hlimit, hrest⟩ := isDirectory_of_follow hfollow
    by_cases hdirectory : t.find? (Path.step l part) = some .directory
    · refine (ih hdirectory hrest).imp_right ?_
      rintro ⟨d, name, hname, hd⟩
      exact ⟨d, name, List.mem_cons_of_mem _ hname, hd⟩
    · right
      have hdown : part ≠ ".." := by
        rintro rfl
        exact hdirectory (h.dropLast hl)
      cases rest with
      | nil =>
        cases hrest
        refine ⟨l, part, List.mem_cons_self, ?_, hl, hlimit, hdown⟩
        rw [Path.step, if_neg hdown]
      | cons next rest => exact absurd (isDirectory_of_follow hrest).1 hdirectory

/-- What is looked up and is no directory has its place in one. -/
theorem of_lookup (h : t.IsProper) (hcwd : t.find? cwd = some .directory)
    {found : Option (Entry κ)} (hl : t.lookup cwd p = .ok (l, found))
    (hnot : t.find? l ≠ some .directory) :
    ∃ d name, l = d ++ [name] ∧ t.find? d = some .directory ∧ IsEntryName name := by
  obtain ⟨husable, hfollow, -⟩ := follow_of_lookup hl
  have hstart : t.find? (if p.isAbsolute then [] else cwd) = some .directory := by
    split
    · rfl
    · exact hcwd
  rcases h.of_follow hstart hfollow with hdirectory | ⟨d, name, hname, hd, hfind, hlimit, hdown⟩
  · exact absurd hdirectory hnot
  · refine ⟨d, name, hd, hfind, hlimit, hdown, fun hzero => ?_⟩
    have hany : FileTree.hasNull p = true :=
      List.any_eq_true.2 ⟨name, hname, List.contains_iff_mem.2 hzero⟩
    rw [husable.noNull] at hany
    cases hany

/-- An entry below a directory keeps a tree proper, unless it replaces a directory. -/
theorem insert (h : t.IsProper) (hd : t.find? d = some .directory) (hname : IsEntryName name)
    (hnot : t.find? (d ++ [name]) ≠ some .directory) (e : Entry κ) :
    (t.insert (d ++ [name]) e).IsProper := by
  have hkept : ∀ l, t.find? l = some .directory →
      (t.insert (d ++ [name]) e).find? l = some .directory := by
    intro l hl
    rw [find?_insert_of_ne, hl]
    rintro rfl
    exact hnot hl
  constructor
  · intro l other found hfound
    by_cases heq : l ++ [other] = d ++ [name]
    · obtain ⟨rfl, -⟩ := List.append_inj' heq rfl
      exact hkept l hd
    · rw [find?_insert_of_ne heq] at hfound
      exact hkept l (h.parent l other found hfound)
  · intro l other found hfound
    by_cases heq : l ++ [other] = d ++ [name]
    · obtain ⟨-, hsame⟩ := List.append_inj' heq rfl
      cases hsame
      exact hname
    · rw [find?_insert_of_ne heq] at hfound
      exact h.entryName l other found hfound

/-- Putting an entry where a path leads to no directory. -/
theorem insert_lookup (h : t.IsProper) (hcwd : t.find? cwd = some .directory)
    {found : Option (Entry κ)} (hl : t.lookup cwd p = .ok (l, found))
    (hnot : t.find? l ≠ some .directory) (e : Entry κ) : (t.insert l e).IsProper := by
  obtain ⟨d, name, rfl, hd, hname⟩ := h.of_lookup hcwd hl hnot
  exact h.insert hd hname hnot e

theorem makeDirectory (h : t.IsProper) (hcwd : t.find? cwd = some .directory)
    (hmade : t.makeDirectory cwd p = .ok u) : u.IsProper := by
  unfold FileTree.makeDirectory at hmade
  split at hmade
  · cases hmade
  · cases hmade
  · rename_i l hl
    cases hmade
    refine h.insert_lookup hcwd hl ?_ _
    rw [← (lookup_eq_ok hl).2]
    exact fun hnone => by cases hnone

theorem ensureDirectory (h : t.IsProper) (hcwd : t.find? cwd = some .directory) (p : Path) :
    (t.ensureDirectory cwd p).1.IsProper := by
  have hkeeps : ∀ t u : FileTree κ, ∀ q, t.IsProper ∧ t.find? cwd = some .directory →
      t.makeDirectory cwd q = .ok u → u.IsProper ∧ u.find? cwd = some .directory :=
    fun t u q ht hmade => ⟨ht.1.makeDirectory ht.2 hmade, makeDirectory_isExtendedBy hmade _ _ ht.2⟩
  exact (makeDirectories_of_step (P := fun u => u.IsProper ∧ u.find? cwd = some .directory)
    p.slashes p.parts.reverse (fun t u _ _ => hkeeps t u _) ⟨h, hcwd⟩).1

end IsProper

end TypeExport.FileTree

import TypeExport.File.Write
import TypeExport.Proofs.Keyed

/-!
# What file operations leave alone

A location that is reached through directories is reached in every later tree, because no operation
removes a directory.  Making directories only adds entries.  Writing a file changes what stands at
one location and nothing else.
-/

namespace TypeExport

namespace FileTree

variable {κ : Type} {t u v : FileTree κ} {cwd l m : Location} {p : Path} {c : κ}

theorem find?_insert_self {e : Entry κ} (h : l ≠ []) : (t.insert l e).find? l = some e := by
  unfold find? FileTree.insert
  rw [if_neg (by simpa using h), Keyed.lookup_put, if_pos rfl]

theorem find?_insert_of_ne {e : Entry κ} (h : m ≠ l) : (t.insert l e).find? m = t.find? m := by
  unfold find? FileTree.insert
  rw [Keyed.lookup_put, if_neg h]

/-- Every directory of `t` is one of `u`. -/
def KeepsDirectories (t u : FileTree κ) : Prop :=
  ∀ l, t.find? l = some .directory → u.find? l = some .directory

/-- Every entry of `t` is one of `u`. -/
def IsExtendedBy (t u : FileTree κ) : Prop :=
  ∀ l e, t.find? l = some e → u.find? l = some e

theorem IsExtendedBy.refl (t : FileTree κ) : t.IsExtendedBy t :=
  fun _ _ h => h

theorem IsExtendedBy.trans (h : t.IsExtendedBy u) (h' : u.IsExtendedBy v) : t.IsExtendedBy v :=
  fun l e he => h' l e (h l e he)

theorem IsExtendedBy.keepsDirectories (h : t.IsExtendedBy u) : t.KeepsDirectories u :=
  fun l hl => h l _ hl

/-- Following names that lead on ends at the location that they denote. -/
theorem eq_of_follow {parts : List String} (h : t.follow l parts = .ok m) :
    m = parts.foldl Path.step l := by
  induction parts generalizing l with
  | nil =>
    cases h
    rfl
  | cons part rest ih =>
    rw [follow] at h
    split at h
    · cases h
    · cases h
    · split at h
      · cases h
      · exact ih h

/-- A path goes on leading to its place when directories are added. -/
theorem follow_of_keepsDirectories (hkeeps : t.KeepsDirectories u) {parts : List String}
    (h : t.follow l parts = .ok m) : u.follow l parts = .ok m := by
  induction parts generalizing l with
  | nil => exact h
  | cons part rest ih =>
    rw [follow] at h ⊢
    split at h
    · cases h
    · cases h
    · rename_i hl
      rw [hkeeps l hl]
      split at h
      · cases h
      · rename_i hlimit
        simp only [if_neg hlimit]
        exact ih h

/-- A path that can be followed at all: it holds no null character and is not too long. -/
structure IsUsable (p : Path) : Prop where
  noNull : hasNull p = false
  fits : p.fits = true

theorem lookup_of_isUsable (h : IsUsable p) :
    t.lookup cwd p =
      (t.follow (if p.isAbsolute then [] else cwd) p.parts).map fun l => (l, t.find? l) := by
  unfold lookup
  rw [if_neg (by simp [h.noNull]), if_neg (by simp [h.fits])]
  cases t.follow (if p.isAbsolute then [] else cwd) p.parts <;> rfl

/-- A path that cannot be followed at all is refused alike in all trees. -/
theorem lookup_of_not_isUsable (h : ¬IsUsable p) :
    ∃ e, ∀ (t : FileTree κ) cwd, t.lookup cwd p = .error e := by
  cases hnull : hasNull p with
  | true =>
    refine ⟨.nullCharacter, fun t cwd => ?_⟩
    unfold lookup
    rw [if_pos hnull]
    rfl
  | false =>
    have hlong : p.fits = false := by
      rw [Bool.eq_false_iff]
      exact fun hfits => h ⟨hnull, hfits⟩
    refine ⟨.nameTooLong, fun t cwd => ?_⟩
    unfold lookup
    rw [if_neg (by simp [hnull]), if_pos (by simp [hlong])]
    rfl

/-- A path that is found is usable, and its parts lead to its place. -/
theorem follow_of_lookup {e : Option (Entry κ)} (h : t.lookup cwd p = .ok (l, e)) :
    IsUsable p ∧ t.follow (if p.isAbsolute then [] else cwd) p.parts = .ok l ∧
      e = t.find? l := by
  by_cases husable : IsUsable p
  · rw [lookup_of_isUsable husable] at h
    cases hfollow : t.follow (if p.isAbsolute then [] else cwd) p.parts with
    | error e => rw [hfollow] at h; cases h
    | ok m =>
      rw [hfollow] at h
      obtain ⟨hm, he⟩ := Prod.mk.inj (Except.ok.inj h)
      exact ⟨husable, congrArg Except.ok hm, by rw [← he, ← hm]⟩
  · obtain ⟨e, he⟩ := lookup_of_not_isUsable (κ := κ) husable
    rw [he] at h
    cases h

theorem lookup_of_follow (husable : IsUsable p)
    (hfollow : t.follow (if p.isAbsolute then [] else cwd) p.parts = .ok l) :
    t.lookup cwd p = .ok (l, t.find? l) := by
  rw [lookup_of_isUsable husable, hfollow]
  rfl

theorem lookup_eq_ok {e : Option (Entry κ)} (h : t.lookup cwd p = .ok (l, e)) :
    l = p.locate cwd ∧ e = t.find? l := by
  obtain ⟨-, hfollow, he⟩ := follow_of_lookup h
  exact ⟨eq_of_follow hfollow, he⟩

/-- A path that leads somewhere leads there in every tree with the same directories. -/
theorem lookup_of_keepsDirectories (hkeeps : t.KeepsDirectories u) {e : Option (Entry κ)}
    (h : t.lookup cwd p = .ok (l, e)) : u.lookup cwd p = .ok (l, u.find? l) := by
  obtain ⟨husable, hfollow, -⟩ := follow_of_lookup h
  exact lookup_of_follow husable (follow_of_keepsDirectories hkeeps hfollow)

theorem isExtendedBy_insert {e : Entry κ} (h : t.find? l = none) : t.IsExtendedBy (t.insert l e) := by
  intro m f hm
  by_cases hml : m = l
  · rw [hml, h] at hm
    cases hm
  · rw [find?_insert_of_ne hml]
    exact hm

theorem makeDirectory_isExtendedBy (h : t.makeDirectory cwd p = .ok u) : t.IsExtendedBy u := by
  unfold makeDirectory at h
  split at h
  · cases h
  · cases h
  · rename_i l hl
    cases h
    exact isExtendedBy_insert (lookup_eq_ok hl).2.symm

theorem settle_fst {e : FileError} : (t.settle cwd p e).1 = t := by
  unfold settle
  split
  · rfl
  · split <;> rfl

/-- What making one of the directories of a path preserves is preserved by making it with all above
it, also when that fails in the end. -/
theorem makeDirectories_of_step {P : FileTree κ → Prop} (slashes : Nat) (reversed : List String)
    (hstep : ∀ t u above, above <:+ reversed → P t →
      t.makeDirectory cwd { slashes, parts := above.reverse } = .ok u → P u) (ht : P t) :
    P (t.makeDirectories cwd slashes reversed).1 := by
  fun_induction makeDirectories t cwd slashes reversed with
  | case1 u hmade => exact hstep _ _ [] (List.suffix_refl _) ht hmade
  | case2 e => rw [settle_fst]; exact ht
  | case3 part above p u hmade => exact hstep _ _ (part :: above) (List.suffix_refl _) ht hmade
  | case4 part above p hmissing u e hmade ih =>
    have habove := ih fun t u front hfront => hstep t u front (hfront.trans (List.suffix_cons _ _))
    rw [hmade] at habove
    exact habove
  | case5 part above p hmissing u hmade v hmade' ih =>
    have habove := ih fun t u front hfront => hstep t u front (hfront.trans (List.suffix_cons _ _))
    rw [hmade] at habove
    exact hstep _ _ (part :: above) (List.suffix_refl _) habove hmade'
  | case6 part above p hmissing u hmade hmissing' ih =>
    have habove := ih fun t u front hfront => hstep t u front (hfront.trans (List.suffix_cons _ _))
    rw [hmade] at habove
    exact habove
  | case7 part above p hmissing u hmade e he hne ih =>
    have habove := ih fun t u front hfront => hstep t u front (hfront.trans (List.suffix_cons _ _))
    rw [hmade] at habove
    rw [settle_fst]
    exact habove
  | case8 part above p e he hne => rw [settle_fst]; exact ht

/-- Making directories adds entries, also when it fails in the end. -/
theorem ensureDirectory_isExtendedBy (t : FileTree κ) (cwd : Location) (p : Path) :
    t.IsExtendedBy (t.ensureDirectory cwd p).1 :=
  makeDirectories_of_step (P := fun u => t.IsExtendedBy u) p.slashes p.parts.reverse
    (fun _ _ _ _ hextended hmade => hextended.trans (makeDirectory_isExtendedBy hmade)) (.refl t)

/-- What a successful write of `c` to `p` makes of a tree. -/
structure Wrote (t : FileTree κ) (cwd : Location) (p : Path) (c : κ) (u : FileTree κ) : Prop where
  keepsDirectories : t.KeepsDirectories u
  kept : ∀ l, l ≠ p.locate cwd → ∀ e, t.find? l = some e → u.find? l = some e
  lookup : u.lookup cwd p = .ok (p.locate cwd, some (.file c))

/-- What a successful write does: the file is there, and nothing else has changed. -/
theorem writeFile_wrote (h : t.writeFile cwd p c = (u, none)) : Wrote t cwd p c u := by
  unfold writeFile at h
  split at h
  · cases h
  · cases h
  · rename_i l e hdirectory hl
    cases h
    obtain ⟨hlocate, rfl⟩ := lookup_eq_ok hl
    have hnot : t.find? l ≠ some .directory := fun hd => hdirectory hd
    have hne : l ≠ [] := by
      rintro rfl
      exact hnot rfl
    have hkept : ∀ m, m ≠ l → ∀ e, t.find? m = some e →
        (t.insert l (.file c)).find? m = some e := by
      intro m hm e he
      rw [find?_insert_of_ne hm]
      exact he
    have hkeeps : t.KeepsDirectories (t.insert l (.file c)) := by
      intro m hm
      refine hkept m ?_ _ hm
      rintro rfl
      exact hnot hm
    refine ⟨hkeeps, hlocate ▸ hkept, ?_⟩
    rw [← hlocate, lookup_of_keepsDirectories hkeeps hl, find?_insert_self hne]

theorem makeOutput_eq_ok (h : t.makeOutput cwd p = (u, none)) :
    t.ensureDirectory cwd p = (u, none) := by
  unfold makeOutput at h
  cases hmade : t.ensureDirectory cwd p with
  | mk v e =>
    rw [hmade] at h
    cases e with
    | some e => cases h
    | none =>
      cases h
      rfl

/-- An artifact is written after the directories above it are made. -/
theorem writeOutput_eq_ok (h : t.writeOutput cwd p c = (u, none)) :
    ∃ v, t.ensureDirectory cwd p.parent = (v, none) ∧ v.writeFile cwd p c = (u, none) := by
  unfold writeOutput at h
  split at h
  · cases h
  · rename_i v hmade
    cases hwrite : v.writeFile cwd p c with
    | mk w e =>
      rw [hwrite] at h
      cases e with
      | some e => cases h
      | none =>
        cases h
        exact ⟨v, hmade, hwrite⟩

/-- An artifact that is written stands at its path, and every other entry is kept. -/
theorem writeOutput_wrote (h : t.writeOutput cwd p c = (u, none)) : Wrote t cwd p c u := by
  have hextended := ensureDirectory_isExtendedBy t cwd p.parent
  obtain ⟨v, hmade, hwrite⟩ := writeOutput_eq_ok h
  rw [hmade] at hextended
  obtain ⟨hkeeps, hkept, hlookup⟩ := writeFile_wrote hwrite
  exact ⟨fun l hl => hkeeps l (hextended l _ hl),
    fun l hne e he => hkept l hne e (hextended l e he), hlookup⟩

theorem read_of_lookup (h : t.lookup cwd p = .ok (l, some (.file c))) : t.read cwd p = .ok c := by
  unfold read
  rw [h]

end FileTree

end TypeExport

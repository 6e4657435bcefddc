import Mathlib.Data.List.Infix
import TypeExport.Proofs.File.Making
import TypeExport.Proofs.File.Sequence

/-!
# What successful operations leave

A directory that is made becomes one together with the directories that lead to it, and nothing else
changes.  After some directories are made and some files are written, what stands at a location is a
matter of which directories they are and of the last write there; the tree they began with shows
where neither reaches.
-/

namespace TypeExport

/-- The locations on the way of a path, its end among them. -/
def Path.way (cwd : Location) (p : Path) : List Location :=
  p.parts.inits.map fun parts => locate cwd { p with parts }

theorem Path.mem_way {cwd l : Location} {p : Path} :
    l ∈ p.way cwd ↔ ∃ parts, parts <+: p.parts ∧ locate cwd { p with parts } = l := by
  unfold way
  rw [List.mem_map]
  simp only [List.mem_inits]

namespace FileTree

variable {κ : Type} {t u v : FileTree κ} {cwd l m : Location} {p : Path} {c : κ}

/-- Following names meets directories only, its end apart. -/
theorem isDirectory_of_prefix {parts front : List String} (h : t.follow l parts = .ok m)
    (hm : t.find? m = some .directory) (hfront : front <+: parts) :
    t.find? (front.foldl Path.step l) = some .directory := by
  obtain ⟨rest, rfl⟩ := hfront
  rw [follow_append] at h
  cases hfollow : t.follow l front with
  | error e =>
    rw [hfollow] at h
    cases h
  | ok k =>
    rw [hfollow] at h
    rw [← eq_of_follow hfollow]
    change t.follow k rest = .ok m at h
    cases rest with
    | nil =>
      cases h
      exact hm
    | cons part rest => exact (isDirectory_of_follow h).1

/-- The way of a directory consists of directories. -/
theorem find?_of_mem_way (h : t.lookup cwd p = .ok (l, some .directory)) (hm : m ∈ p.way cwd) :
    t.find? m = some .directory := by
  obtain ⟨parts, hfront, rfl⟩ := Path.mem_way.1 hm
  obtain ⟨-, hfollow, hfound⟩ := follow_of_lookup h
  exact isDirectory_of_prefix hfollow hfound.symm hfront

theorem find?_of_makeDirectory (h : t.makeDirectory cwd p = .ok u) (hl : l ≠ p.locate cwd) :
    u.find? l = t.find? l := by
  unfold makeDirectory at h
  split at h
  · cases h
  · cases h
  · rename_i k hk
    cases h
    rw [find?_insert_of_ne]
    rw [(lookup_eq_ok hk).1]
    exact hl

/-- Making a directory changes nothing aside from its way. -/
theorem find?_of_not_mem_way (h : t.ensureDirectory cwd p = (u, none)) (hl : l ∉ p.way cwd) :
    u.find? l = t.find? l := by
  have hkept : (t.ensureDirectory cwd p).1.find? l = t.find? l := by
    refine makeDirectories_of_step (P := fun v => v.find? l = t.find? l) _ _ ?_ rfl
    intro v w above habove hv hmade
    rw [find?_of_makeDirectory hmade, hv]
    rintro rfl
    exact hl (Path.mem_way.2 ⟨above.reverse, List.reverse_suffix.1 (by simpa using habove), rfl⟩)
  rw [h] at hkept
  exact hkept

theorem find?_of_writeFile (h : t.writeFile cwd p c = (u, none)) (hl : l ≠ p.locate cwd) :
    u.find? l = t.find? l := by
  unfold writeFile at h
  split at h
  · cases h
  · cases h
  · rename_i k e hdirectory hk
    cases h
    rw [find?_insert_of_ne]
    rw [(lookup_eq_ok hk).1]
    exact hl

/-- What is left of `t` after the directories `made` are made and the files of `writes` are written
one after the other. -/
structure Leaves (t : FileTree κ) (cwd : Location) (made : List Path) (writes : List (Path × κ))
    (u : FileTree κ) : Prop where
  directory : ∀ p ∈ made, ∀ l ∈ p.way cwd, u.find? l = some .directory
  written : ∀ l c, lastAt cwd writes l = some c → u.find? l = some (.file c)
  kept : ∀ l, (∀ p ∈ made, l ∉ p.way cwd) → lastAt cwd writes l = none → u.find? l = t.find? l

namespace Leaves

variable {made : List Path} {writes : List (Path × κ)}

theorem refl (t : FileTree κ) : t.Leaves cwd [] [] t where
  directory _ h := (List.not_mem_nil h).elim
  written _ _ h := by cases h
  kept _ _ _ := rfl

/-- One more directory. -/
theorem make (h : t.Leaves cwd made writes u) (hmade : u.ensureDirectory cwd p = (v, none)) :
    t.Leaves cwd (made ++ [p]) writes v := by
  have hextended : u.IsExtendedBy v := by
    have hextended := ensureDirectory_isExtendedBy u cwd p
    rwa [hmade] at hextended
  refine ⟨fun q hq l hl => ?_, fun l c hlast => ?_, fun l hway hlast => ?_⟩
  · rcases List.mem_append.1 hq with hq | hq
    · exact hextended l _ (h.directory q hq l hl)
    · rw [List.mem_singleton.1 hq] at hl
      exact find?_of_mem_way (lookup_of_ensureDirectory hmade) hl
  · exact hextended l _ (h.written l c hlast)
  · rw [find?_of_not_mem_way hmade (hway p (by simp))]
    exact h.kept l (fun q hq => hway q (List.mem_append_left _ hq)) hlast

/-- One more file in a directory that was made. -/
theorem write (h : t.Leaves cwd made writes u) (hwrite : u.writeFile cwd p c = (v, none)) :
    t.Leaves cwd made (writes ++ [(p, c)]) v := by
  have hwrote := writeFile_wrote hwrite
  refine ⟨fun q hq l hl => hwrote.keepsDirectories l (h.directory q hq l hl), fun l d hd => ?_,
    fun l hway hnone => ?_⟩
  · rw [lastAt_concat] at hd
    split at hd
    · rename_i hl
      cases hd
      rw [← hl]
      exact (lookup_eq_ok hwrote.lookup).2.symm
    · rename_i hl
      rw [find?_of_writeFile hwrite (Ne.symm hl)]
      exact h.written l d hd
  · rw [lastAt_concat] at hnone
    split at hnone
    · cases hnone
    · rename_i hl
      rw [find?_of_writeFile hwrite (Ne.symm hl)]
      exact h.kept l hway hnone

/-- One more artifact, with the directories above it. -/
theorem output (h : t.Leaves cwd made writes u) (hwrite : u.writeOutput cwd p c = (v, none)) :
    t.Leaves cwd (made ++ [p.parent]) (writes ++ [(p, c)]) v := by
  obtain ⟨w, hmade, hfile⟩ := writeOutput_eq_ok hwrite
  exact (h.make hmade).write hfile

theorem keepsUp (t : FileTree κ) (cwd : Location) :
    KeepsUp cwd fun made writes u => t.Leaves cwd made writes u where
  make _ _ _ _ _ h hmade := h.make hmade
  output _ _ _ _ _ _ h hwrite := h.output hwrite

/-- Trees that are left by the same directories and the same last writes are the same everywhere. -/
theorem find?_eq {made' : List Path} {writes' : List (Path × κ)} (h : t.Leaves cwd made writes u)
    (h' : t.Leaves cwd made' writes' v) (hmade : ∀ p, p ∈ made ↔ p ∈ made')
    (hlast : ∀ l, lastAt cwd writes l = lastAt cwd writes' l) (l : Location) :
    u.find? l = v.find? l := by
  cases hl : lastAt cwd writes l with
  | some c => rw [h.written l c hl, h'.written l c (hlast l ▸ hl)]
  | none =>
    by_cases hway : ∃ p ∈ made, l ∈ p.way cwd
    · obtain ⟨p, hp, hlp⟩ := hway
      rw [h.directory p hp l hlp, h'.directory p ((hmade p).1 hp) l hlp]
    · have haside : ∀ p ∈ made, l ∉ p.way cwd := fun p hp hlp => hway ⟨p, hp, hlp⟩
      rw [h.kept l haside hl,
        h'.kept l (fun p hp => haside p ((hmade p).2 hp)) (hlast l ▸ hl)]

end Leaves

/-- A tree that is left of `t` when the first one of the directories `made` was made in it, whatever
came after it. -/
inductive FirstMade (t : FileTree κ) (cwd : Location) : List Path → FileTree κ → Prop
  | start : FirstMade t cwd [] t
  | made {p : Path} {more : List Path} {u v : FileTree κ}
    (hmade : t.ensureDirectory cwd p = (u, none)) (hkeeps : u.KeepsDirectories v) :
    FirstMade t cwd (p :: more) v

theorem FirstMade.make {made : List Path} (h : t.FirstMade cwd made u)
    (hmade : u.ensureDirectory cwd p = (v, none)) : t.FirstMade cwd (made ++ [p]) v := by
  cases h with
  | start => exact .made hmade fun _ hl => hl
  | made hfirst hkeeps =>
    have hextended := ensureDirectory_isExtendedBy u cwd p
    rw [hmade] at hextended
    exact .made hfirst fun l hl => hextended l _ (hkeeps l hl)

theorem FirstMade.write {made : List Path} (h : t.FirstMade cwd made u) (hne : made ≠ [])
    (hwrite : u.writeFile cwd p c = (v, none)) : t.FirstMade cwd made v := by
  cases h with
  | start => exact absurd rfl hne
  | made hfirst hkeeps =>
    exact .made hfirst fun l hl => (writeFile_wrote hwrite).keepsDirectories l (hkeeps l hl)

theorem FirstMade.keepsUp (t : FileTree κ) (cwd : Location) :
    KeepsUp cwd fun made (_ : List (Path × κ)) u => t.FirstMade cwd made u where
  make _ _ _ _ _ h hmade := h.make hmade
  output _ _ _ _ _ _ h hwrite := by
    obtain ⟨w, hmade, hfile⟩ := writeOutput_eq_ok hwrite
    exact (h.make hmade).write (by simp) hfile

end FileTree

end TypeExport

/-!
## Trees after some writes

After artifacts are written one after the other, a location holds the last of them that was written
there.  Elsewhere it holds what it held before, and where there was nothing before, the directories
that lead to the artifacts.
-/

namespace TypeExport.FileTree

variable {κ : Type} {t u : FileTree κ} {cwd : Location} {writes : List (Path × κ)}

/-- What stands at a location after some artifacts are written into a tree. -/
def afterWrites (t : FileTree κ) (cwd : Location) (writes : List (Path × κ)) (l : Location) :
    Option (Entry κ) :=
  match lastAt cwd writes l with
  | some c => some (.file c)
  | none =>
    match t.find? l with
    | some e => some e
    | none =>
      if writes.any fun w => (w.1.parent.way cwd).contains l then some .directory else none

/-- Only what is written is replaced. -/
def KeepsOthers (t : FileTree κ) (cwd : Location) (writes : List (Path × κ)) (u : FileTree κ) :
    Prop :=
  ∀ l e, t.find? l = some e → lastAt cwd writes l = none → u.find? l = some e

/-- Making directories and writing files keep up that only what is written is replaced. -/
theorem keepsUp_keepsOthers (t : FileTree κ) (cwd : Location) :
    KeepsUp cwd fun _ writes u => t.KeepsOthers cwd writes u where
  make _ _ u _ p h hmade := by
    intro l e he hlast
    have hextended := ensureDirectory_isExtendedBy u cwd p
    rw [hmade] at hextended
    exact hextended l e (h l e he hlast)
  output _ _ _ _ p c h hwrite := by
    intro l e he hlast
    rw [lastAt_concat] at hlast
    by_cases hl : p.locate cwd = l
    · rw [if_pos hl] at hlast
      cases hlast
    · rw [if_neg hl] at hlast
      exact (writeOutput_wrote hwrite).kept l (Ne.symm hl) e (h l e he hlast)

/-- A tree that writes leave holds the last text written to each place, and elsewhere what stood there.
-/
theorem find?_eq_afterWrites (h : t.Leaves cwd (writes.map fun w => w.1.parent) writes u)
    (hkeeps : t.KeepsOthers cwd writes u) (l : Location) :
    u.find? l = t.afterWrites cwd writes l := by
  unfold afterWrites
  cases hlast : lastAt cwd writes l with
  | some c => exact h.written l c hlast
  | none =>
    cases hold : t.find? l with
    | some e => exact hkeeps l e hold hlast
    | none =>
      by_cases hway : (writes.any fun w => (w.1.parent.way cwd).contains l) = true
      · obtain ⟨w, hw, hl⟩ := List.any_eq_true.1 hway
        simp only [if_pos hway]
        exact h.directory w.1.parent (List.mem_map_of_mem hw) l (List.contains_iff_mem.1 hl)
      · simp only [if_neg hway, ← hold]
        apply h.kept l _ hlast
        intro p hp hl
        obtain ⟨w, hw, rfl⟩ := List.mem_map.1 hp
        exact hway (List.any_eq_true.2 ⟨w, hw, List.contains_iff_mem.2 hl⟩)

/-- A location is written, or it is as it was, or it was made on the way to what is written. -/
theorem afterWrites_cases (t : FileTree κ) (cwd : Location) (writes : List (Path × κ))
    (l : Location) :
    (∃ w ∈ writes, w.1.locate cwd = l) ∨ t.afterWrites cwd writes l = t.find? l ∨
      (∃ w ∈ writes, l ∈ w.1.parent.way cwd) ∧ t.find? l = none ∧
        t.afterWrites cwd writes l = some .directory := by
  unfold afterWrites
  cases hlast : lastAt cwd writes l with
  | some c =>
    obtain ⟨p, hp, hl⟩ := mem_of_lastAt hlast
    exact .inl ⟨(p, c), hp, hl⟩
  | none =>
    right
    cases hold : t.find? l with
    | some e => exact .inl rfl
    | none =>
      by_cases hway : (writes.any fun w => (w.1.parent.way cwd).contains l) = true
      · obtain ⟨w, hw, hl⟩ := List.any_eq_true.1 hway
        exact .inr ⟨⟨w, hw, List.contains_iff_mem.1 hl⟩, rfl, if_pos hway⟩
      · exact .inl (if_neg hway)

end TypeExport.FileTree

/-!
## Trees that agree on a way

Looking up a path depends on the directories that lead to it, and making a directory on what stands
on its way.  Two trees that agree there make the directory alike, whatever stands elsewhere.
-/

namespace TypeExport.FileTree

variable {κ : Type} {t u v w : FileTree κ} {cwd : Location} {p : Path} {places : List Location}

/-- The same stands in both trees at some locations. -/
def AgreesOn (places : List Location) (t u : FileTree κ) : Prop :=
  ∀ l ∈ places, t.find? l = u.find? l

theorem AgreesOn.symm (h : AgreesOn places t u) : AgreesOn places u t :=
  fun l hl => (h l hl).symm

/-- A path leads to the same place in trees that agree on all the places on its way. -/
theorem follow_of_same {l : Location} {parts : List String}
    (h : ∀ front, front <+: parts →
      t.find? (front.foldl Path.step l) = u.find? (front.foldl Path.step l)) :
    t.follow l parts = u.follow l parts := by
  induction parts generalizing l with
  | nil => rfl
  | cons part rest ih =>
    have hhere : t.find? l = u.find? l := h [] (List.nil_prefix)
    rw [follow, follow, hhere]
    split
    · rfl
    · rfl
    · split
      · rfl
      · exact ih fun front hfront => h (part :: front) (List.cons_prefix_cons.2 ⟨rfl, hfront⟩)

theorem AgreesOn.same (h : AgreesOn (p.way cwd) t u) {front : List String}
    (hfront : front <+: p.parts) :
    t.find? (Path.locate cwd { p with parts := front }) =
      u.find? (Path.locate cwd { p with parts := front }) :=
  h _ (Path.mem_way.2 ⟨front, hfront, rfl⟩)

/-- A path is looked up alike in trees that agree on its way. -/
theorem lookup_of_agreesOn (h : AgreesOn (p.way cwd) t u) : t.lookup cwd p = u.lookup cwd p := by
  have hfollow : t.follow (if p.isAbsolute then [] else cwd) p.parts =
      u.follow (if p.isAbsolute then [] else cwd) p.parts :=
    follow_of_same fun _ hfront => h.same hfront
  by_cases husable : IsUsable p
  · rw [lookup_of_isUsable husable, lookup_of_isUsable husable, ← hfollow]
    cases hend : t.follow (if p.isAbsolute then [] else cwd) p.parts with
    | error e => rfl
    | ok l =>
      have hl : t.find? l = u.find? l := by
        rw [eq_of_follow hend]
        exact h.same (List.prefix_refl _)
      show Except.ok (l, t.find? l) = Except.ok (l, u.find? l)
      rw [hl]
  · obtain ⟨e, he⟩ := lookup_of_not_isUsable (κ := κ) husable
    rw [he, he]

/-- A path whose parts lead the way of another one. -/
theorem AgreesOn.front (h : AgreesOn (p.way cwd) t u) {front : List String}
    (hfront : front <+: p.parts) : AgreesOn (Path.way cwd { p with parts := front }) t u := by
  intro l hl
  obtain ⟨parts, hparts, rfl⟩ := Path.mem_way.1 hl
  exact h.same (hparts.trans hfront)

theorem AgreesOn.insert (h : AgreesOn places t u) {l : Location} {e : Entry κ} (hl : l ≠ []) :
    AgreesOn places (t.insert l e) (u.insert l e) := by
  intro m hm
  by_cases heq : m = l
  · rw [heq, find?_insert_self hl, find?_insert_self hl]
  · rw [find?_insert_of_ne heq, find?_insert_of_ne heq]
    exact h m hm

/-- What making a directory with all above it gives in two trees: the same failure or none, and
trees that agree again. -/
def MakesAlike (places : List Location) (x y : FileTree κ × Option FileError) : Prop :=
  AgreesOn places x.1 y.1 ∧ x.2 = y.2

/-- Making a directory succeeds or fails alike in trees that agree on its way, and keeps them in
agreement. -/
theorem makeDirectory_of_agreesOn (hall : AgreesOn places t u) (h : AgreesOn (p.way cwd) t u) :
    (∃ v w, t.makeDirectory cwd p = .ok v ∧ u.makeDirectory cwd p = .ok w ∧ AgreesOn places v w) ∨
      ∃ e, t.makeDirectory cwd p = .error e ∧ u.makeDirectory cwd p = .error e := by
  unfold makeDirectory
  rw [← lookup_of_agreesOn h]
  split
  · exact .inr ⟨_, rfl, rfl⟩
  · exact .inr ⟨_, rfl, rfl⟩
  · rename_i l hl
    refine .inl ⟨_, _, rfl, rfl, hall.insert ?_⟩
    rintro rfl
    cases (lookup_eq_ok hl).2

theorem makesAlike_settle (hall : AgreesOn places t u) (h : AgreesOn (p.way cwd) t u)
    (e : FileError) : MakesAlike places (t.settle cwd p e) (u.settle cwd p e) := by
  have hdirectory : t.pathIsDirectory cwd p = u.pathIsDirectory cwd p := by
    unfold pathIsDirectory
    rw [lookup_of_agreesOn h]
  unfold settle
  rw [hdirectory]
  split
  · exact ⟨hall, rfl⟩
  · split <;> exact ⟨hall, rfl⟩

/-- Two trees that agree on the way of a directory agree on it after it is made. -/
theorem makesAlike_makeDirectories (slashes : Nat) {reversed : List String}
    (hway : ∀ t u : FileTree κ, AgreesOn places t u → ∀ above, above <:+ reversed →
      AgreesOn (Path.way cwd { slashes, parts := above.reverse }) t u)
    (h : AgreesOn places t u) :
    MakesAlike places (t.makeDirectories cwd slashes reversed)
      (u.makeDirectories cwd slashes reversed) := by
  induction reversed with
  | nil =>
    have hhere := hway t u h [] (List.suffix_refl _)
    rw [List.reverse_nil] at hhere
    rw [makeDirectories, makeDirectories]
    rcases makeDirectory_of_agreesOn h hhere with ⟨v, w, hv, hw, hmade⟩ | ⟨e, ht, hu⟩
    · rw [hv, hw]
      exact ⟨hmade, rfl⟩
    · rw [ht, hu]
      exact makesAlike_settle h hhere e
  | cons part above ih =>
    have hhere := hway t u h (part :: above) (List.suffix_refl _)
    have habove := ih fun t u hagree front hfront =>
      hway t u hagree front (hfront.trans (List.suffix_cons _ _))
    rw [makeDirectories, makeDirectories]
    rcases makeDirectory_of_agreesOn h hhere with ⟨v, w, hv, hw, hmade⟩ | ⟨e, ht, hu⟩
    · rw [hv, hw]
      exact ⟨hmade, rfl⟩
    · rw [ht, hu]
      by_cases hmissing : e = .notFound
      · -- the directories above are made first
        subst hmissing
        dsimp only
        generalize t.makeDirectories cwd slashes above = x at habove
        generalize u.makeDirectories cwd slashes above = y at habove
        obtain ⟨v, failure⟩ := x
        obtain ⟨w, failure'⟩ := y
        obtain ⟨hagree, hsame⟩ := habove
        obtain rfl : failure = failure' := hsame
        cases failure with
        | some e => exact ⟨hagree, rfl⟩
        | none =>
          have hagain := hway v w hagree (part :: above) (List.suffix_refl _)
          dsimp only
          rcases makeDirectory_of_agreesOn hagree hagain with
            ⟨v', w', hv, hw, hmade⟩ | ⟨e, hv, hw⟩
          · rw [hv, hw]
            exact ⟨hmade, rfl⟩
          · rw [hv, hw]
            cases e with
            | notFound => exact ⟨hagree, rfl⟩
            | _ => exact makesAlike_settle hagree hagain _
      · cases e with
        | notFound => exact absurd rfl hmissing
        | _ => exact makesAlike_settle h hhere _

/-- A directory that can be made in a tree can be made in every tree that agrees on its way. -/
theorem ensureDirectory_of_agreesOn (h : AgreesOn (p.way cwd) t u)
    (hmade : t.ensureDirectory cwd p = (v, none)) : ∃ w, u.ensureDirectory cwd p = (w, none) := by
  have halike : MakesAlike (p.way cwd) (t.ensureDirectory cwd p) (u.ensureDirectory cwd p) := by
    refine makesAlike_makeDirectories p.slashes (fun t u hagree above habove => ?_) h
    exact hagree.front (List.reverse_suffix.1 (by simpa using habove))
  rw [hmade] at halike
  exact ⟨_, Prod.ext rfl halike.2.symm⟩

end TypeExport.FileTree

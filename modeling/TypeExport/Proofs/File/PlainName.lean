import TypeExport.File.Path
import TypeExport.Generation.Clash

/-!
# File names without slashes

A name that holds no slash and is more than points is one part of a path, and the path leads to one
entry of its directory.
-/

namespace TypeExport

namespace Path

/-- A name that is one part of a path and leads downwards. -/
structure IsPlain (name : String) : Prop where
  noSlash : '/' ∉ name.toList
  nonempty : name ≠ ""
  notSame : name ≠ "."
  notParent : name ≠ ".."

theorem leadingSlashes_of_not_mem {s : List Char} (h : '/' ∉ s) : leadingSlashes s = 0 := by
  cases s with
  | nil => rfl
  | cons c rest =>
    have hc : c ≠ '/' := fun hc => h (hc ▸ List.mem_cons_self)
    simp [leadingSlashes, hc]

theorem ofString_of_isPlain {name : String} (h : IsPlain name) :
    ofString name = { slashes := 0, parts := [name] } := by
  have htrivial : isTrivial name = false := by
    simp [isTrivial, h.nonempty, h.notSame]
  unfold ofString
  rw [leadingSlashes_of_not_mem h.noSlash, Text.splitOn_of_not_mem h.noSlash]
  simp [htrivial]

theorem join_of_isPlain (p : Path) {name : String} (h : IsPlain name) :
    p.join (.ofString name) = { p with parts := p.parts ++ [name] } := by
  rw [ofString_of_isPlain h]
  rfl

/-- A plain name leads from a directory to one of its entries. -/
theorem locate_join_of_isPlain (cwd : Location) (p : Path) {name : String} (h : IsPlain name) :
    (p.join (.ofString name)).locate cwd = p.locate cwd ++ [name] := by
  rw [join_of_isPlain p h]
  unfold locate
  rw [List.foldl_append, List.foldl_cons, List.foldl_nil, step, if_neg h.notParent]
  rfl

/-- A name below a path makes its text no shorter. -/
theorem utf8ByteSize_text_le_append (slashes : Nat) (parts : List String) {name : String}
    (h : name ≠ "") :
    (text { slashes, parts }).utf8ByteSize ≤
      (text { slashes, parts := parts ++ [name] }).utf8ByteSize := by
  have hbody : ("/".intercalate parts).utf8ByteSize ≤
      ("/".intercalate (parts ++ [name])).utf8ByteSize := by
    cases parts with
    | nil => exact Nat.zero_le _
    | cons first rest =>
      rw [String.intercalate_append_of_ne_nil (List.cons_ne_nil _ _) (List.cons_ne_nil _ _),
        String.utf8ByteSize_append, String.utf8ByteSize_append]
      omega
  have hname : 0 < name.utf8ByteSize := by
    rw [Nat.pos_iff_ne_zero]
    exact fun hzero => h (String.utf8ByteSize_eq_zero_iff.1 hzero)
  cases slashes with
  | zero =>
    cases parts with
    | nil =>
      show ".".utf8ByteSize ≤ ("/".intercalate [name]).utf8ByteSize
      rw [String.intercalate_singleton]
      exact hname
    | cons first rest => exact hbody
  | succ slashes =>
    show (_ ++ _ : String).utf8ByteSize ≤ (_ ++ _ : String).utf8ByteSize
    rw [String.utf8ByteSize_append, String.utf8ByteSize_append]
    exact Nat.add_le_add_left hbody _

/-- A directory has a shorter path than its entries. -/
theorem fits_of_fits_join {p : Path} {name : String} (h : IsPlain name)
    (hfits : (p.join (.ofString name)).fits = true) : p.fits = true := by
  rw [join_of_isPlain p h] at hfits
  unfold fits at hfits ⊢
  rw [decide_eq_true_eq] at hfits ⊢
  exact Nat.le_trans (utf8ByteSize_text_le_append p.slashes p.parts h.nonempty) hfits

end Path

theorem toList_ne_of_getLast {s t : String} (h : s.toList.getLast? ≠ t.toList.getLast?) : s ≠ t := by
  rintro rfl
  exact h rfl

/-- The name of a generated file is plain if its stem holds no slash. -/
theorem isPlain_fileName {stem : String} (h : '/' ∉ stem.toList) :
    Path.IsPlain (stem ++ fileExtension) := by
  have hlast : (stem ++ fileExtension).toList.getLast? = some 's' := by
    simp [fileExtension, String.toList_append]
  refine ⟨?_, ?_, ?_, ?_⟩
  · rw [String.toList_append, List.mem_append, not_or]
    exact ⟨h, by decide⟩
  all_goals
    refine toList_ne_of_getLast ?_
    rw [hlast]
    decide

theorem fileName_inj {stem other : String} (h : stem ++ fileExtension = other ++ fileExtension) :
    stem = other := by
  have hlist := congrArg String.toList h
  rw [String.toList_append, String.toList_append] at hlist
  exact String.toList_inj.1 (List.append_cancel_right hlist)

end TypeExport

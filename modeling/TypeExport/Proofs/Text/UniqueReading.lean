import Mathlib.Data.List.TakeWhile
import Mathlib.Data.List.Basic

/-!
# Texts read in one way

A code writes values as texts.  It is read in one way if a text, whatever stands behind it, begins
with the code of one value at most.  Codes of this kind may follow one another, and so may the
members of a list if what stands behind the last one is no beginning of a member.
-/

namespace TypeExport

/-- The lines of a text, each with its end. -/
theorem toList_lines {lines : List String} (h : lines ≠ []) :
    ("\n".intercalate lines ++ "\n").toList = lines.flatMap fun line => line.toList ++ ['\n'] := by
  have hend : ("\n" : String).toList = ['\n'] := rfl
  rw [String.toList_append, hend]
  induction lines with
  | nil => exact absurd rfl h
  | cons line rest ih =>
    cases rest with
    | nil => simp
    | cons next rest =>
      have hrest := ih (List.cons_ne_nil _ _)
      rw [String.intercalate_cons_cons, String.toList_append, String.toList_append, hend,
        List.append_assoc, hrest]
      rfl

/-- What a text goes on with where a test ends fails the test. -/
theorem eq_false_of_dropWhile {γ : Type} {p : γ → Bool} {s rest : List γ} {x : γ}
    (h : s.dropWhile p = x :: rest) : p x = false := by
  have hhead := List.head?_dropWhile_not p s
  rw [h] at hhead
  simpa using hhead

variable {α β : Type} {P : α → Prop} {Q : β → Prop}

/-- Only one value that `P` allows can be read at the front of a text. -/
def ReadsUniquely (P : α → Prop) (code : α → List Char) : Prop :=
  ∀ a b, P a → P b → ∀ x y, code a ++ x = code b ++ y → a = b ∧ x = y

/-- Texts whose characters all have a property end where the first character without it stands. -/
theorem append_inj_of_all {p : Char → Bool} {a b x y : List Char} (ha : ∀ c ∈ a, p c = true)
    (hb : ∀ c ∈ b, p c = true) (hx : ∀ c ∈ x.head?, p c = false) (hy : ∀ c ∈ y.head?, p c = false)
    (h : a ++ x = b ++ y) : a = b ∧ x = y := by
  have htake : ∀ {z : List Char}, (∀ c ∈ z.head?, p c = false) → z.takeWhile p = [] := by
    intro z hz
    cases z with
    | nil => rfl
    | cons c z => rw [List.takeWhile_cons_of_neg (by simp [hz c rfl])]
  have heq : a = b := by
    have := congrArg (List.takeWhile p) h
    rwa [List.takeWhile_append_of_pos ha, List.takeWhile_append_of_pos hb, htake hx, htake hy,
      List.append_nil, List.append_nil] at this
  subst heq
  exact ⟨rfl, List.append_cancel_left h⟩

namespace ReadsUniquely

variable {f : α → List Char} {g : β → List Char}

/-- A text up to a character that it does not have. -/
theorem until_char (stop : Char) :
    ReadsUniquely (fun s : String => stop ∉ s.toList) (fun s => s.toList ++ [stop]) := by
  intro s t hs ht x y h
  rw [List.append_assoc, List.append_assoc] at h
  have hne : ∀ {u : String}, stop ∉ u.toList → ∀ c ∈ u.toList, (c != stop) = true := by
    intro u hu c hc
    rw [bne_iff_ne]
    rintro rfl
    exact hu hc
  obtain ⟨hst, hrest⟩ := append_inj_of_all (hne hs) (hne ht) (by simp) (by simp) h
  exact ⟨String.toList_inj.1 hst, List.append_cancel_left hrest⟩

theorem seq (hf : ReadsUniquely P f) (hg : ReadsUniquely Q g) :
    ReadsUniquely (fun p : α × β => P p.1 ∧ Q p.2) (fun p => f p.1 ++ g p.2) := by
  rintro ⟨a, b⟩ ⟨a', b'⟩ ⟨ha, hb⟩ ⟨ha', hb'⟩ x y h
  rw [List.append_assoc, List.append_assoc] at h
  obtain ⟨rfl, hrest⟩ := hf a a' ha ha' _ _ h
  obtain ⟨rfl, hxy⟩ := hg b b' hb hb' _ _ hrest
  exact ⟨rfl, hxy⟩

/-- The code of what a value is made to. -/
theorem comap {e : β → α} (hf : ReadsUniquely P f) (hQ : ∀ b, Q b → P (e b))
    (he : ∀ b b', Q b → Q b' → e b = e b' → b = b') : ReadsUniquely Q (fun b => f (e b)) := by
  intro b b' hb hb' x y h
  obtain ⟨heq, hxy⟩ := hf (e b) (e b') (hQ b hb) (hQ b' hb') x y h
  exact ⟨he b b' hb hb' heq, hxy⟩

/-- A fixed text in front. -/
theorem behind (front : List Char) (hf : ReadsUniquely P f) :
    ReadsUniquely P (fun a => front ++ f a) := by
  intro a b ha hb x y h
  rw [List.append_assoc, List.append_assoc] at h
  exact hf a b ha hb x y (List.append_cancel_left h)

/-- A list whose members do not begin with the character that ends it. -/
theorem list {stop : Char} (hf : ReadsUniquely P f)
    (hstop : ∀ a, P a → ∃ c rest, f a = c :: rest ∧ c ≠ stop) :
    ReadsUniquely (fun l : List α => ∀ a ∈ l, P a) (fun l => l.flatMap f ++ [stop]) := by
  intro l m hl hm x y h
  -- A list of which the other one is a beginning would have its next member begin with `stop`.
  induction l generalizing m with
  | nil =>
    cases m with
    | nil => exact ⟨rfl, List.append_cancel_left h⟩
    | cons b m =>
      obtain ⟨c, rest, hb, hc⟩ := hstop b (hm b List.mem_cons_self)
      simp only [List.flatMap_nil, List.flatMap_cons, hb, List.nil_append, List.cons_append] at h
      exact absurd (List.cons.inj h).1.symm hc
  | cons a l ih =>
    obtain ⟨ha, hl⟩ := List.forall_mem_cons.1 hl
    cases m with
    | nil =>
      obtain ⟨c, rest, ha, hc⟩ := hstop a ha
      simp only [List.flatMap_nil, List.flatMap_cons, ha, List.nil_append, List.cons_append] at h
      exact absurd (List.cons.inj h).1 hc
    | cons b m =>
      obtain ⟨hb, hm'⟩ := List.forall_mem_cons.1 hm
      simp only [List.flatMap_cons, List.append_assoc] at h ih
      obtain ⟨rfl, hrest⟩ := hf a b ha hb _ _ h
      obtain ⟨rfl, hxy⟩ := ih m hl hm' hrest
      exact ⟨rfl, hxy⟩

/-- Members of a list with a character behind each, and a last value with nothing behind it. -/
theorem series {mark : Char} (hf : ReadsUniquely P f) {l m : List α} {a b : α}
    (hl : ∀ c ∈ l, P c) (hm : ∀ c ∈ m, P c) (ha : P a) (hb : P b)
    (h : l.flatMap (fun c => f c ++ [mark]) ++ f a = m.flatMap (fun c => f c ++ [mark]) ++ f b) :
    l = m ∧ a = b := by
  induction l generalizing m with
  | nil =>
    cases m with
    | nil =>
      refine ⟨rfl, (hf a b ha hb [] [] ?_).1⟩
      rw [List.append_nil, List.append_nil]
      exact h
    | cons c m =>
      simp only [List.flatMap_nil, List.flatMap_cons, List.nil_append, List.append_assoc] at h
      rw [← List.append_nil (f a)] at h
      cases (hf a c ha (hm c List.mem_cons_self) _ _ h).2
  | cons d l ih =>
    obtain ⟨hd, hl⟩ := List.forall_mem_cons.1 hl
    cases m with
    | nil =>
      simp only [List.flatMap_nil, List.flatMap_cons, List.nil_append, List.append_assoc] at h
      rw [← List.append_nil (f b)] at h
      cases (hf d b hd hb _ _ h).2
    | cons c m =>
      obtain ⟨hc, hm'⟩ := List.forall_mem_cons.1 hm
      simp only [List.flatMap_cons, List.append_assoc] at h ih
      obtain ⟨rfl, hrest⟩ := hf d c hd hc _ _ h
      obtain ⟨rfl, rfl⟩ := ih hl hm' (List.append_cancel_left hrest)
      exact ⟨rfl, rfl⟩

end ReadsUniquely

end TypeExport

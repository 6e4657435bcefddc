import TypeExport.Class.Definition
import TypeExport.Proofs.Action
import TypeExport.Proofs.Keyed
import TypeExport.Proofs.Name.UniqueMembers

/-!
# Defining enumerations

A class whose one base is a standard enumeration, and whose body gives different names plain values,
is defined as an enumeration with exactly these members, also where values are equal.
-/

namespace TypeExport

/-- A base of enumerations, what makes the values of their members, and what every world knows about
it. -/
structure IsEnumBase (base : ClassRef) (maker : ValueMaker) : Prop where
  resolve : ∀ w : World, w.resolveBases [.type base] = .ok [base]
  metaclass : ∀ w : World, w.commonMetaclass [base] = .ok "enum.EnumType"
  admitted : ∀ w : World, w.checkEnumeration [base] = .ok ()
  frame : ∀ w : World, ∃ f, w.frame [.type base] [base] = .ok f ∧ .standard "enum.Enum" ∈ f.order
  maker : ∀ w : World, w.valueMaker [base] = .ok maker

theorem isEnumBase_enum : IsEnumBase (.standard "enum.Enum") .plain where
  resolve _ := rfl
  metaclass _ := rfl
  admitted _ := rfl
  frame _ := by
    refine ⟨{ order := [.standard "enum.Enum", World.objectClass]
              storage := some World.objectClass, parameters := [], isProtocol := false }, rfl, ?_⟩
    exact List.mem_cons_self
  maker _ := rfl

theorem isEnumBase_integer : IsEnumBase (.standard "enum.IntEnum") .integer where
  resolve _ := rfl
  metaclass _ := rfl
  admitted _ := rfl
  frame _ := by
    refine ⟨{ order := [.standard "enum.IntEnum", .standard "builtins.int",
                .standard "enum.ReprEnum", .standard "enum.Enum", World.objectClass]
              storage := some (.standard "enum.IntEnum"), parameters := []
              isProtocol := false }, rfl, ?_⟩
    simp
  maker _ := rfl

/-- A value that a maker keeps and that equals no other value of the same maker. -/
def ValueMaker.Keeps : ValueMaker → Value → Prop
  | .integer, v => ∃ n, v = .int n
  | _, v => ∃ s, v = .text s

namespace Enumeration

theorem make_of_keeps {maker : ValueMaker} (hmaker : maker = .plain ∨ maker = .integer) {v : Value}
    (h : maker.Keeps v) : maker.make v = .ok v := by
  rcases hmaker with rfl | rfl
  · rfl
  · obtain ⟨n, rfl⟩ := h
    rfl

/-- Kept values that compare equal are the same. -/
theorem eq_of_same {maker : ValueMaker} {v w : Value} (hv : maker.Keeps v) (hw : maker.Keeps w)
    (h : v.same w = true) : v = w := by
  cases maker
  case integer =>
    obtain ⟨m, rfl⟩ := hv
    obtain ⟨n, rfl⟩ := hw
    rw [Value.same, beq_iff_eq] at h
    rw [h]
  all_goals
    obtain ⟨s, rfl⟩ := hv
    obtain ⟨t, rfl⟩ := hw
    rw [Value.same, beq_iff_eq] at h
    rw [h]

/-- No member is lost, and none gets another value, also where values repeat. -/
theorem membersOf_entries {maker : ValueMaker} (hmaker : maker = .plain ∨ maker = .integer)
    {entries : List (String × Value)} (h : ∀ entry ∈ entries, maker.Keeps entry.2) :
    membersOf maker entries = .ok (entries.map fun (name, v) => { name, value := v }) := by
  unfold membersOf
  have hfrom : ∀ members : List Member, (∀ m ∈ members, maker.Keeps m.value) →
      entries.foldlM (fun members (name, v) => do
        return addMember members name (← maker.make v)) members =
          (.ok (members ++ entries.map fun (name, v) => { name, value := v }) :
            Except Failure (List Member)) := by
    induction entries with
    | nil =>
      intro members _
      rw [List.map_nil, List.append_nil]
      rfl
    | cons entry entries ih =>
      intro members hmembers
      obtain ⟨name, v⟩ := entry
      obtain ⟨hv, hentries⟩ := List.forall_mem_cons.1 h
      have hadd : addMember members name v = members ++ [{ name, value := v }] := by
        unfold addMember
        split
        · rename_i m hm
          have hsame : m.value.same v = true :=
            List.find?_some (p := fun m : Member => m.value.same v) hm
          rw [eq_of_same (hmembers m (List.mem_of_find?_eq_some hm)) hv hsame]
        · rfl
      have hnext := ih hentries (members ++ [{ name, value := v }]) (by
        intro m hm
        rcases List.mem_append.1 hm with hm | hm
        · exact hmembers m hm
        · rw [List.mem_singleton.1 hm]
          exact hv)
      have hmake : maker.make v = .ok v := make_of_keeps hmaker hv
      rw [List.foldlM_cons]
      simp only [hmake]
      show List.foldlM _ (addMember members name v) entries = _
      rw [hadd, hnext, List.append_assoc]
      rfl
  exact hfrom [] fun _ hm => nomatch hm

/-- A name of a member that is new makes a member. -/
theorem roleOf_of_isMemberName {className name : String} {earlier : List String}
    (h : Name.IsMemberName name) (hnot : name ∉ earlier) :
    roleOf className earlier name = .ok .member := by
  obtain ⟨c, hc, hupper⟩ := h.capital
  have hne : c ≠ '_' := by
    rintro rfl
    revert hupper
    decide
  unfold roleOf Name.isPrivateOf Name.isReservedName Name.isSystemName Name.startsWithTwo
  cases hname : name.toList with
  | nil =>
    rw [hname] at hc
    cases hc
  | cons d rest =>
    rw [hname] at hc
    cases hc
    simp [List.isPrefixOf, hne, Ne.symm hne, hnot]

/-- Names of members that are pairwise different are all kept, in order. -/
theorem memberNames_of_nodup (className : String) (earlier : List String) {names : List String}
    (h : ∀ name ∈ names, Name.IsMemberName name) (hnodup : (earlier ++ names).Nodup) :
    memberNames className earlier names = .ok (earlier ++ names) := by
  induction names generalizing earlier with
  | nil => rw [List.append_nil]; rfl
  | cons name names ih =>
    obtain ⟨hname, hnames⟩ := List.forall_mem_cons.1 h
    have hnot : name ∉ earlier := by
      intro hmem
      exact (List.nodup_append.1 hnodup).2.2 name hmem name List.mem_cons_self rfl
    have hnext : (earlier ++ [name] ++ names).Nodup := by
      rw [List.append_assoc]
      exact hnodup
    rw [memberNames, roleOf_of_isMemberName hname hnot]
    show memberNames className (earlier ++ [name]) names = _
    rw [ih _ hnames hnext, List.append_assoc]
    rfl

theorem checkNames_of_isMemberName {names : List String}
    (h : ∀ name ∈ names, Name.IsMemberName name) : checkNames names = .ok () := by
  unfold checkNames
  rw [if_neg]
  intro hmro
  obtain ⟨c, hc, hupper⟩ := (h _ (List.contains_iff_mem.1 hmro)).capital
  cases hc
  revert hupper
  decide

end Enumeration

/-- A member name is not a private one. -/
theorem Name.inClass_of_isMemberName (className : String) {name : String}
    (h : Name.IsMemberName name) : Name.inClass className name = name := by
  obtain ⟨c, hc, hupper⟩ := h.capital
  have hne : '_' ≠ c := by
    rintro rfl
    revert hupper
    decide
  unfold Name.inClass Name.startsWithTwo
  cases hname : name.toList with
  | nil =>
    rw [hname] at hc
    cases hc
  | cons d rest =>
    rw [hname] at hc
    cases hc
    simp [List.isPrefixOf, hne]

namespace ClassDefinition

/-- Different member names with values that the maker keeps. -/
structure AreMembers (maker : ValueMaker) (entries : List (String × Value)) : Prop where
  nodup : (entries.map Prod.fst).Nodup
  names : ∀ entry ∈ entries, Name.IsMemberName entry.1
  values : ∀ entry ∈ entries, maker.Keeps entry.2

variable {maker : ValueMaker} {entries : List (String × Value)} {base : ClassRef}

theorem AreMembers.map_inClass (h : AreMembers maker entries) (className : String) :
    entries.map (fun (name, v) => (Name.inClass className name, v)) = entries := by
  have hid : ∀ entry ∈ entries, (Name.inClass className entry.1, entry.2) = id entry := by
    intro entry hentry
    rw [Name.inClass_of_isMemberName className (h.names entry hentry)]
    rfl
  exact (List.map_congr_left hid).trans (List.map_id _)

/-- Names that are written as entries give no further members. -/
theorem filterMap_names_eq_nil {names : List (String × BodyValue)}
    (h : ∀ name ∈ names.map Prod.fst, name ∈ entries.map Prod.fst) :
    names.filterMap (fun (name, v) =>
      if (entries.lookup name).isSome then none else (constant? v).map fun v => (name, v)) = [] := by
  rw [List.filterMap_eq_nil_iff]
  intro entry hentry
  have hmem := h entry.1 (List.mem_map_of_mem hentry)
  have hsome : (entries.lookup entry.1).isSome = true := by
    rw [List.lookup_isSome_iff]
    obtain ⟨other, hother, heq⟩ := List.mem_map.1 hmem
    exact ⟨other, hother, by rw [heq]; exact beq_self_eq_true _⟩
  exact if_pos hsome

theorem filter_own_names (entries : List (String × Value)) :
    entries.filter (fun (name, _) => (entries.map Prod.fst).contains name) = entries := by
  refine List.filter_eq_self.2 fun entry hentry => ?_
  exact List.contains_iff_mem.2 (List.mem_map_of_mem hentry)

/-- The body of an enumeration has no names but those of its members. -/
theorem asEnumeration_entries (hbase : IsEnumBase base maker)
    (hmaker : maker = .plain ∨ maker = .integer) (h : AreMembers maker entries) (w : World)
    (self : ClassRef) {body : ClassBody}
    (hbody : ∀ name ∈ body.names.map Prod.fst, name ∈ entries.map Prod.fst) (info : ClassInfo) :
    ∃ attributes, asEnumeration w [base] self body entries info =
      .ok { info with
        members := entries.map fun (name, v) => { name, value := v }, attributes } := by
  have hnames : ∀ name ∈ entries.map Prod.fst, Name.IsMemberName name := by
    intro name hname
    obtain ⟨entry, hentry, rfl⟩ := List.mem_map.1 hname
    exact h.names entry hentry
  have hmemberNames := Enumeration.memberNames_of_nodup info.shortName [] hnames h.nodup
  unfold asEnumeration
  simp only [h.map_inClass, filterMap_names_eq_nil hbody, List.nil_append, hmemberNames, bind_ok,
    Enumeration.checkNames_of_isMemberName hnames, hbase.maker, filter_own_names,
    Enumeration.membersOf_entries hmaker h.values]
  exact ⟨_, rfl⟩

/-- The names that the body of an enumeration gives. -/
theorem run_entries (w : World) (scope : Scope) (owner : String) (h : AreMembers maker entries) :
    ∃ body, ClassBody.run w scope owner .plain [] [] entries [] = .ok body ∧
      ∀ name ∈ body.names.map Prod.fst, name ∈ entries.map Prod.fst := by
  refine ⟨_, rfl, fun name hname => ?_⟩
  rcases Keyed.mem_keys_putAll hname with hname | hname
  · exact (List.not_mem_nil hname).elim
  rcases Keyed.mem_keys_putAll hname with hname | hname
  · rw [List.map_map, List.map_map] at hname
    obtain ⟨entry, hentry, rfl⟩ := List.mem_map.1 hname
    show Name.inClass owner entry.1 ∈ _
    rw [Name.inClass_of_isMemberName owner (h.names entry hentry)]
    exact List.mem_map_of_mem hentry
  · exact (List.not_mem_nil hname).elim

/-- What is known of a class that is defined as an enumeration. -/
structure IsEnumInfo (info : ClassInfo) (moduleName name : String)
    (entries : List (String × Value)) : Prop where
  moduleName : info.moduleName = moduleName
  qualifiedName : info.qualifiedName = name
  shortName : info.shortName = name
  marker : info.marker = some none
  order : .standard "enum.Enum" ∈ info.order
  members : info.members = entries.map fun (name, v) => { name, value := v }

theorem writtenBases_name {w : World} {scope : Scope} {baseName : String} {h : Hint}
    (hmeaning : scope.evaluate w (.name baseName) = .ok h) :
    writtenBases w scope .plain [.name baseName] [] = .ok [h] := by
  unfold writtenBases
  rw [List.mapM_cons, List.mapM_nil, hmeaning]
  rfl

theorem prepare_enumBase (hbase : IsEnumBase base maker) (w : World) :
    prepare w .plain [base] = .ok "enum.EnumType" := by
  have hmaking : makingOf .plain "enum.EnumType" = .enumeration := by decide
  unfold prepare
  rw [hbase.metaclass, bind_ok, if_pos hmaking, hbase.admitted]
  rfl

/-- The class of an enumeration is made of its frame and its entries. -/
theorem make_enumeration (hbase : IsEnumBase base maker)
    (hmaker : maker = .plain ∨ maker = .integer) (h : AreMembers maker entries) (w : World)
    (moduleName : String) (deferred : Bool) (name : String) (bases : List Expr) {body : ClassBody}
    (hbody : ∀ name ∈ body.names.map Prod.fst, name ∈ entries.map Prod.fst) :
    ∃ info, IsEnumInfo info moduleName name entries ∧
      Gives (make { moduleName, deferred }
        (.mk name .plain bases [] (some none) [] entries [] [] [] none false) [.type base] [base]
        "enum.EnumType" body) w (.defined w.classes.length) (w.addClass info) := by
  obtain ⟨frame, hframe, henum⟩ := hbase.frame w
  have hmaking : makingOf .plain "enum.EnumType" = .enumeration := by decide
  let info := blank { moduleName, deferred } name frame "enum.EnumType" (some none)
    (.defined w.classes.length) (abstractNames w [base] frame.order "enum.EnumType" body []) body
  obtain ⟨attributes, hcomplete⟩ := asEnumeration_entries hbase hmaker h (w.addClass info)
    (.defined w.classes.length) hbody info
  refine ⟨{ info with
    members := entries.map fun (name, v) => { name, value := v }, attributes }, ?_, ?_⟩
  · exact {
      moduleName := rfl
      qualifiedName := String.intercalate_singleton (s := ".") (t := name)
      shortName := rfl
      marker := rfl
      order := List.mem_cons_of_mem _ henum
      members := rfl }
  · unfold make
    refine (gives_get w).bind ?_
    have hactual : actualBases w .enumeration [base] = .ok [base] := rfl
    simp only [form, hmaking]
    refine (gives_ofWorld hactual).bind ((gives_ofWorld hframe).bind ?_)
    refine Gives.bind (t := w) (gives_mk ?_) ((gives_set _ _).bind (gives_pure _ _))
    show (asEnumeration (w.addClass info) [base] (.defined w.classes.length) body entries info >>= _,
      w) = _
    rw [hcomplete]
    rfl

/-- Defining an enumeration adds one class to the world. -/
theorem define_enumeration (hbase : IsEnumBase base maker)
    (hmaker : maker = .plain ∨ maker = .integer) (h : AreMembers maker entries) {w : World}
    {moduleName : String} {deferred : Bool} {baseName : String} (name : String)
    (hmeaning : Scope.evaluate w { moduleName, deferred } (.name baseName) = .ok (.type base)) :
    ∃ info, IsEnumInfo info moduleName name entries ∧
      Gives (define { moduleName, deferred }
        (.mk name .plain [.name baseName] [] (some none) [] entries [] [] [] none false)) w
        (.defined w.classes.length) (w.addClass info) := by
  obtain ⟨body, hrun, hnames⟩ := run_entries w (Scope.within { moduleName, deferred } name) name h
  obtain ⟨info, hinfo, hmake⟩ := make_enumeration hbase hmaker h w moduleName deferred name
    [.name baseName] hnames
  refine ⟨info, hinfo, ?_⟩
  rw [define]
  refine (gives_ofWorld (writtenBases_name hmeaning)).bind ?_
  refine (gives_ofWorld (hbase.resolve w)).bind ?_
  refine (gives_ofWorld (prepare_enumBase hbase w)).bind ?_
  rw [defineAll]
  refine (gives_pure [] w).bind ?_
  refine (gives_ofWorld hrun).bind ?_
  exact hmake

end ClassDefinition

end TypeExport

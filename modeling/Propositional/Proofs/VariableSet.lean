import Mathlib.Data.List.Dedup
import Mathlib.Data.List.Nodup
import Propositional.Valuation
/-!
# Propositional.Proofs.VariableSet

The set of the variables of a text.

A set **lists** letters if they are the names of its members (`Lists`). It is determined by the
letters that it lists (`Lists.eq_iff`), and its size is the number of the distinct ones
(`Lists.size_eq`). The set that is found for a text lists the letters of the text
(`lists_of_ofText`), and there is none only if there is no letter (`ofText_eq_error_iff`). The set
of given names lists the names, and there is none only if a name is no letter (`ofNames_eq`).

There are no more than 26 members (`size_le`), so the index holds the positions as they are
(`mem_index_iff`) and the column of a member is its position (`column?_eq_some_iff`). A valuation as
long as the set gives each member a value.
-/

namespace Propositional

/-- The number of distinct letters from `a` to `z` in a text. -/
def Text.letterCount (text : Text) : Nat := (text.filter Char.isLower).dedup.length

namespace VariableSet

theorem nodup (vars : VariableSet) : vars.toList.Nodup := by
  refine vars.ascending.imp ?_
  intro x y h heq
  subst heq
  exact Variable.lt_irrefl x h

theorem nodup_names (vars : VariableSet) : (vars.toList.map Variable.name).Nodup :=
  vars.nodup.map fun _ _ => Variable.ext

/-! ### Letters of a set -/

/-- The set has the letters of the text as its names, in strictly ascending order. -/
structure Lists (vars : VariableSet) (letters : Text) : Prop where
  ascending : (vars.toList.map Variable.name).Pairwise (· < ·)
  members : ∀ c, c ∈ vars.toList.map Variable.name ↔ c ∈ letters

theorem lists_ofList (xs : List Variable) : (ofList xs).Lists (xs.map Variable.name) := by
  refine ⟨List.pairwise_map.2 (ofList xs).ascending, fun c => ?_⟩
  rw [List.mem_map, List.mem_map]
  exact exists_congr fun x => and_congr_left fun _ => mem_ofList

namespace Lists

variable {vars vars' : VariableSet} {letters letters' : Text}

theorem mem_iff (h : vars.Lists letters) {x : Variable} : x ∈ vars ↔ x.name ∈ letters := by
  rw [← h.members]
  exact (List.mem_map_of_injective fun _ _ => Variable.ext).symm

/-- Neither the order of the letters nor how often they occur makes a difference to the set. -/
theorem eq_iff (h : vars.Lists letters) (h' : vars'.Lists letters') :
    vars = vars' ↔ ∀ c, c ∈ letters ↔ c ∈ letters' := by
  constructor
  · rintro rfl c
    rw [← h.members, ← h'.members]
  · intro hletters
    refine ext_mem fun x => ?_
    rw [h.mem_iff, h'.mem_iff, hletters]

theorem size_eq (h : vars.Lists letters) : vars.size = letters.dedup.length := by
  have hperm : (vars.toList.map Variable.name).Perm letters.dedup := by
    refine (List.perm_ext_iff_of_nodup vars.nodup_names (List.nodup_dedup _)).2 ?_
    intro c
    rw [h.members, List.mem_dedup]
  simpa [size] using hperm.length_eq

end Lists

/-! ### Variables of a text -/

theorem mem_filterMap_ofChar? {text : Text} {x : Variable} :
    x ∈ text.filterMap Variable.ofChar? ↔ x.name ∈ text := by
  rw [List.mem_filterMap]
  constructor
  · intro h
    obtain ⟨c, hc, hx⟩ := h
    exact (Variable.ofChar?_eq_some_iff.1 hx) ▸ hc
  · intro hx
    exact ⟨x.name, hx, Variable.ofChar?_name x⟩

theorem map_name_filterMap_ofChar? (text : Text) :
    (text.filterMap Variable.ofChar?).map Variable.name = text.filter Char.isLower := by
  induction text with
  | nil => rfl
  | cons c text ih =>
      cases hc : Variable.ofChar? c with
      | none =>
          have hlower := Bool.eq_false_iff.1 (Variable.ofChar?_eq_none_iff.1 hc)
          rw [List.filterMap_cons_none hc, ih, List.filter_cons_of_neg hlower]
      | some x =>
          obtain rfl := Variable.ofChar?_eq_some_iff.1 hc
          rw [List.filterMap_cons_some hc, List.map_cons, ih, List.filter_cons_of_pos x.isLower]

theorem ofText_eq_ok_iff {text : Text} {vars : VariableSet} :
    ofText text = .ok vars ↔
      text.filterMap Variable.ofChar? ≠ [] ∧ vars = ofList (text.filterMap Variable.ofChar?) := by
  unfold ofText
  cases text.filterMap Variable.ofChar? with
  | nil => simp
  | cons x xs => simp [eq_comm]

theorem lists_of_ofText {text : Text} {vars : VariableSet} (h : ofText text = .ok vars) :
    vars.Lists (text.filter Char.isLower) := by
  rw [(ofText_eq_ok_iff.1 h).2, ← map_name_filterMap_ofChar?]
  exact lists_ofList _

theorem mem_of_ofText {text : Text} {vars : VariableSet} (h : ofText text = .ok vars)
    {x : Variable} : x ∈ vars ↔ x.name ∈ text := by
  rw [(ofText_eq_ok_iff.1 h).2, mem_ofList, mem_filterMap_ofChar?]

/-- The names of the variables of a text are its letters. -/
theorem mem_names_of_ofText {text : Text} {vars : VariableSet} (h : ofText text = .ok vars)
    {c : Char} : c ∈ vars.toList.map Variable.name ↔ c ∈ text ∧ c.isLower = true :=
  ((lists_of_ofText h).members c).trans List.mem_filter

theorem size_of_ofText {text : Text} {vars : VariableSet} (h : ofText text = .ok vars) :
    vars.size = text.letterCount :=
  (lists_of_ofText h).size_eq

theorem letterCount_eq_zero_iff {text : Text} :
    text.letterCount = 0 ↔ text.filterMap Variable.ofChar? = [] := by
  simp [Text.letterCount, List.filterMap_eq_nil_iff, Variable.ofChar?_eq_none_iff]

theorem ofText_eq_error_iff {text : Text} {e : Error} :
    ofText text = .error e ↔ e = .noVariables ∧ text.letterCount = 0 := by
  rw [letterCount_eq_zero_iff]
  unfold ofText
  cases text.filterMap Variable.ofChar? with
  | nil => simp [eq_comm]
  | cons x xs => simp

/-! ### Given names -/

theorem ofNames_cons (c : Char) (names : List Char) :
    ofNames (c :: names) =
      match Variable.ofChar? c with
      | none => .error (.strayCharacter c)
      | some x => (ofNames names).map (insert x) := by
  have hinsert : ∀ (x : Variable) (rest : Except Error (List Variable)),
      (do return ofList (x :: (← rest))) =
        Except.map (insert x) (do return ofList (← rest)) := by
    intro x rest
    cases rest <;> rfl
  unfold ofNames
  rw [List.mapM_cons]
  cases Variable.ofChar? c with
  | none => rfl
  | some x =>
      rw [ok_bind, bind_assoc]
      exact hinsert x _

/-- The first name that is no letter decides, if there is one. -/
theorem ofNames_eq (names : List Char) :
    ofNames names =
      match names.find? (!·.isLower) with
      | some c => .error (.strayCharacter c)
      | none => .ok (ofList (names.filterMap Variable.ofChar?)) := by
  induction names with
  | nil => rfl
  | cons c names ih =>
      rw [ofNames_cons]
      cases hc : Variable.ofChar? c with
      | none =>
          have hstray := Variable.ofChar?_eq_none_iff.1 hc
          rw [List.find?_cons_of_pos (by simp [hstray])]
      | some x =>
          obtain rfl := Variable.ofChar?_eq_some_iff.1 hc
          rw [List.find?_cons_of_neg (by simp [x.isLower]), List.filterMap_cons_some hc]
          simp only [ih]
          cases names.find? (!·.isLower) <;> rfl

theorem ofNames_eq_error_iff {names : List Char} {e : Error} :
    ofNames names = .error e ↔
      ∃ c, names.find? (!·.isLower) = some c ∧ e = .strayCharacter c := by
  rw [ofNames_eq]
  cases names.find? (!·.isLower) <;> simp [eq_comm]

theorem ofNames_eq_ok_iff {names : List Char} {vars : VariableSet} :
    ofNames names = .ok vars ↔ (∀ c ∈ names, c.isLower = true) ∧ vars.Lists names := by
  rw [ofNames_eq]
  cases hstray : names.find? (!·.isLower) with
  | some c =>
      have hc : c.isLower = false := by simpa using List.find?_some hstray
      refine iff_of_false (by simp) fun h => ?_
      rw [h.1 c (List.mem_of_find?_eq_some hstray)] at hc
      cases hc
  | none =>
      have hletters : ∀ c ∈ names, c.isLower = true := by
        simpa using List.find?_eq_none.1 hstray
      have hlists := lists_ofList (names.filterMap Variable.ofChar?)
      rw [map_name_filterMap_ofChar?, List.filter_eq_self.2 hletters] at hlists
      rw [Except.ok.injEq, and_iff_right hletters]
      constructor
      · rintro rfl
        exact hlists
      · intro h
        exact (hlists.eq_iff h).2 fun _ => Iff.rfl

/-! ### Columns -/

/-- There are 26 letters. -/
theorem size_le (vars : VariableSet) : vars.size ≤ 26 := by
  have hletters : vars.toList.map Variable.name ⊆
      (List.range 26).map fun i => Char.ofNat (0x61 + i) := by
    intro c hc
    obtain ⟨x, -, rfl⟩ := List.mem_map.1 hc
    have hrange := isLower_iff.1 x.isLower
    refine List.mem_map.2 ⟨x.name.toNat - 0x61, List.mem_range.2 (by omega), ?_⟩
    rw [Nat.add_sub_cancel' hrange.1, Char.ofNat_toNat]
  simpa [size] using vars.nodup_names.length_le_of_subset hletters

/-- A number up to the size survives in a machine word of 16 bits. -/
theorem toNat_ofNat_of_le_size {vars : VariableSet} {n : Nat} (h : n ≤ vars.size) :
    (UInt16.ofNat n).toNat = n :=
  UInt16.toNat_ofNat_of_lt' (Nat.lt_of_le_of_lt (Nat.le_trans h vars.size_le) (by decide))

/-- There are so few variables that their number fits into a word of 16 bits. -/
theorem width_toNat (vars : VariableSet) : vars.width.toNat = vars.size :=
  toNat_ofNat_of_le_size (Nat.le_refl vars.size)

theorem lt_size_of_getElem? {vars : VariableSet} {x : Variable} {j : Nat}
    (h : vars.toList[j]? = some x) : j < vars.size :=
  (List.getElem?_eq_some_iff.1 h).1

theorem map_fst_index (vars : VariableSet) : vars.index.map Prod.fst = vars.toList := by
  rw [index, List.map_map]
  exact List.zipIdx_map_fst 0 vars.toList

/-- The index holds the position of each member, and nothing else. -/
theorem mem_index_iff {vars : VariableSet} {x : Variable} {column : UInt16} :
    (x, column) ∈ vars.index ↔ vars.toList[column.toNat]? = some x := by
  rw [index, List.mem_map]
  constructor
  · rintro ⟨⟨y, j⟩, hmem, heq⟩
    obtain ⟨rfl, rfl⟩ := Prod.mk.inj heq
    have hj := List.mk_mem_zipIdx_iff_getElem?.1 hmem
    rwa [toNat_ofNat_of_le_size (Nat.le_of_lt (lt_size_of_getElem? hj))]
  · intro h
    refine ⟨(x, column.toNat), List.mk_mem_zipIdx_iff_getElem?.2 h, ?_⟩
    exact congrArg (Prod.mk x) UInt16.ofNat_toNat

/-- No variable stands in the index twice, so looking it up finds its entry. -/
theorem lookup_index_eq_some_iff {vars : VariableSet} {x : Variable} {column : UInt16} :
    vars.index.lookup x = some column ↔ (x, column) ∈ vars.index := by
  rw [List.lookup_eq_some_iff]
  constructor
  · rintro ⟨before, after, hindex, -⟩
    rw [hindex]
    exact List.mem_append_right before List.mem_cons_self
  · intro hmem
    obtain ⟨before, after, hindex⟩ := List.append_of_mem hmem
    refine ⟨before, after, hindex, fun entry hentry => bne_iff_ne.2 ?_⟩
    rintro rfl
    have hnodup := vars.nodup
    rw [← map_fst_index, hindex, List.map_append, List.map_cons, List.nodup_middle] at hnodup
    have hmember : entry.1 ∈ before.map Prod.fst := List.mem_map.2 ⟨entry, hentry, rfl⟩
    exact (List.nodup_cons.1 hnodup).1 (List.mem_append_left _ hmember)

theorem column?_eq_some_iff {vars : VariableSet} {x : Variable} {j : Nat} :
    vars.column? x = some j ↔ vars.toList[j]? = some x := by
  rw [column?, Option.map_eq_some_iff]
  constructor
  · rintro ⟨column, hlookup, rfl⟩
    exact mem_index_iff.1 (lookup_index_eq_some_iff.1 hlookup)
  · intro h
    have hword := toNat_ofNat_of_le_size (Nat.le_of_lt (lt_size_of_getElem? h))
    refine ⟨UInt16.ofNat j, lookup_index_eq_some_iff.2 (mem_index_iff.2 ?_), hword⟩
    rwa [hword]

/-- Only what is no member has no column. -/
theorem column?_eq_none_iff {vars : VariableSet} {x : Variable} :
    vars.column? x = none ↔ x ∉ vars := by
  rw [Option.eq_none_iff_forall_ne_some, mem_iff, List.mem_iff_getElem?, not_exists]
  exact forall_congr' fun j => not_congr column?_eq_some_iff

/-- A valuation gives a variable the value in its column. -/
theorem assign_of_getElem? {vars : VariableSet} {x : Variable} {j : Nat}
    (h : vars.toList[j]? = some x) (v : Valuation) : vars.assign v x = v.values[j]? := by
  rw [assign, column?_eq_some_iff.2 h, Option.bind_some]

/-- A valuation as long as the set gives each member a value. -/
theorem assign_ne_none {vars : VariableSet} {v : Valuation} (hv : v.size = vars.size)
    {x : Variable} (hx : x ∈ vars) : vars.assign v x ≠ none := by
  obtain ⟨j, hj⟩ := List.mem_iff_getElem?.1 hx
  have hlt : j < v.values.length := by
    have hlen := (List.getElem?_eq_some_iff.1 hj).1
    rw [Valuation.size, size] at hv
    omega
  rw [assign_of_getElem? hj, List.getElem?_eq_getElem hlt]
  exact Option.some_ne_none _

/-- Values behind those of the columns belong to no variable. -/
theorem assign_append {vars : VariableSet} {v : Valuation} (hv : vars.size ≤ v.size)
    (surplus : Bits) : vars.assign ⟨v.values ++ surplus⟩ = vars.assign v := by
  funext x
  cases hx : vars.column? x with
  | none => rw [assign, assign, hx, Option.bind_none, Option.bind_none]
  | some j =>
      have hj := column?_eq_some_iff.1 hx
      have hlt : j < v.values.length := by
        have hcolumn := (List.getElem?_eq_some_iff.1 hj).1
        rw [Valuation.size, size] at hv
        omega
      rw [assign_of_getElem? hj, assign_of_getElem? hj, List.getElem?_append_left hlt]

/-- A valuation as long as the set is determined by the values that it gives to the members. -/
theorem assign_eq_iff {vars : VariableSet} {v : Valuation} (hv : v.size = vars.size)
    (σ : Variable → Bool) :
    (∀ x ∈ vars, vars.assign v x = some (σ x)) ↔ v = ⟨vars.toList.map σ⟩ := by
  constructor
  · intro h
    obtain ⟨bits⟩ := v
    refine congrArg Valuation.mk (List.ext_getElem? fun j => ?_)
    rw [List.getElem?_map]
    cases hj : vars.toList[j]? with
    | none =>
        have hend : vars.size ≤ j := List.getElem?_eq_none_iff.1 hj
        exact List.getElem?_eq_none (Nat.le_trans (Nat.le_of_eq hv) hend)
    | some x =>
        rw [← assign_of_getElem? hj ⟨bits⟩]
        exact h x (List.mem_of_getElem? hj)
  · intro h x hx
    obtain ⟨j, hj⟩ := List.mem_iff_getElem?.1 hx
    rw [assign_of_getElem? hj, h, List.getElem?_map, hj, Option.map_some]

end VariableSet

end Propositional

import Propositional.Proofs.Formula.Support
/-!
# Propositional.Proofs.VariableSet.Construction

Three ways to a variable set.

A set is made of a list of names, of a text or of a formula. Whichever way it is made, it lists the
letters that it is made of (`BuiltFrom.lists`), and everything else follows from that. Two sets are
equal if and only if they are made of the same letters, also where one is made of names and the
other is the support of a formula; the size is the number of distinct letters; and the index, which
is made of the list, says the same as the list.
-/

namespace Propositional.VariableSet

/-- The set was made of these letters: of names, of the letters of a text, or of the leaves of a
formula. -/
inductive BuiltFrom : VariableSet → Text → Prop where
  | names {names : List Char} {vars : VariableSet} (h : ofNames names = .ok vars) :
      BuiltFrom vars names
  | text {text : Text} {vars : VariableSet} (h : ofText text = .ok vars) :
      BuiltFrom vars (text.filter Char.isLower)
  | support (f : Formula) : BuiltFrom f.support (f.leaves.map Variable.name)

theorem BuiltFrom.lists {vars : VariableSet} {letters : Text} (h : BuiltFrom vars letters) :
    vars.Lists letters := by
  cases h with
  | names h => exact (ofNames_eq_ok_iff.1 h).2
  | text h => exact lists_of_ofText h
  | support f => exact lists_ofList f.leaves

/-- The letters of a text can be given as names, in any order. -/
theorem ofText_eq_ofNames {text : Text} {names : List Char}
    (h : names.Perm (text.filter Char.isLower)) :
    ofText text = if names = [] then .error .noVariables else ofNames names := by
  have hmem : ∀ c, c ∈ names ↔ c ∈ text.filter Char.isLower := fun c => h.mem_iff
  split
  · next hnil =>
    subst hnil
    rw [ofText_eq_error_iff, Text.letterCount, List.nil_perm.1 h]
    exact ⟨rfl, rfl⟩
  · next hne =>
    have hletters : ∀ c ∈ names, c.isLower = true := fun c hc =>
      (List.mem_filter.1 ((hmem c).1 hc)).2
    cases htext : ofText text with
    | error e =>
        have hnone := letterCount_eq_zero_iff.1 (ofText_eq_error_iff.1 htext).2
        rw [← map_name_filterMap_ofChar?, hnone] at h
        exact absurd h.eq_nil hne
    | ok vars =>
        have hlists := lists_of_ofText htext
        have hnames : vars.Lists names :=
          ⟨hlists.ascending, fun c => (hlists.members c).trans (hmem c).symm⟩
        exact (ofNames_eq_ok_iff.2 ⟨hletters, hnames⟩).symm

/-- Names make a set unless one of them is no letter, and then the first such name is reported. A
text makes the set that its letters make as names, if it has any. Whatever a set is made of, its
letters are its names in ascending order, its width is the number of the distinct ones, its columns
are the positions of its members, and it is the same set as any other that is made of these
letters. -/
theorem construction_outcome :
    (∀ names e, ofNames names = .error e ↔
      ∃ c, names.find? (!·.isLower) = some c ∧ e = .strayCharacter c) ∧
    (∀ names vars, ofNames names = .ok vars ↔
      (∀ c ∈ names, c.isLower = true) ∧ vars.Lists names) ∧
    (∀ (text : Text) (names : List Char), names.Perm (text.filter Char.isLower) →
      ofText text = if names = [] then .error .noVariables else ofNames names) ∧
    ∀ vars letters, BuiltFrom vars letters →
      vars.Lists letters ∧
      vars.width.toNat = vars.size ∧ vars.size = letters.dedup.length ∧ vars.size ≤ 26 ∧
      (∀ x i, vars.column? x = some i ↔ vars.toList[i]? = some x) ∧
      (∀ x, vars.column? x = none ↔ x.name ∉ letters) ∧
      ∀ vars' letters', BuiltFrom vars' letters' →
        (vars = vars' ↔ ∀ c, c ∈ letters ↔ c ∈ letters') := by
  refine ⟨fun names e => ofNames_eq_error_iff, fun names vars => ofNames_eq_ok_iff,
    fun text names => ofText_eq_ofNames, ?_⟩
  intro vars letters hbuilt
  have hlists := hbuilt.lists
  refine ⟨hlists, vars.width_toNat, hlists.size_eq, vars.size_le,
    fun x i => column?_eq_some_iff, ?_, ?_⟩
  · intro x
    rw [column?_eq_none_iff, hlists.mem_iff]
  · intro vars' letters' hbuilt'
    exact hlists.eq_iff hbuilt'.lists

/-- The names `z`, `a`, `z`, `m` make the set of the text `m ∧ (z → a)`, in which `m` has the column
1 and `b` has none. With `A` among them they make no set. -/
theorem construction_outcome_repeated :
    let names : List Char := ['z', 'a', 'z', 'm']
    let text : Text := ['m', '∧', '(', 'z', '→', 'a', ')']
    ∃ vars, ofNames names = .ok vars ∧ ofText text = .ok vars ∧ vars.width.toNat = 3 ∧
      vars.column? ⟨'m', rfl⟩ = some 1 ∧ vars.column? ⟨'b', rfl⟩ = none ∧
      ofNames ('z' :: 'A' :: names) = .error (.strayCharacter 'A') := by
  intro names text
  obtain ⟨hstray, -, htext, hbuilt⟩ := construction_outcome
  have hnames : ofNames names = .ok (ofList [⟨'a', rfl⟩, ⟨'m', rfl⟩, ⟨'z', rfl⟩]) := by decide
  have hletters : ofText text = ofNames ['a', 'z', 'm'] :=
    htext text ['a', 'z', 'm'] (by decide)
  obtain ⟨-, hwidth, -, -, hcolumn, hnone, -⟩ := hbuilt _ names (.names hnames)
  refine ⟨_, hnames, hletters.trans (by decide), hwidth, ?_, ?_, ?_⟩
  · exact (hcolumn _ _).2 rfl
  · exact (hnone _).2 (by decide)
  · exact (hstray _ _).2 ⟨'A', rfl, rfl⟩

end Propositional.VariableSet

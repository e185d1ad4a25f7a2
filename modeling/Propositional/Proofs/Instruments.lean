import Propositional.Proofs.Rpn.Simulation
import Propositional.Proofs.Table.Tabulation
/-!
# Propositional.Proofs.Instruments

What the stages of a tabulation tell, and that telling takes no part in the result.

A computation **tells** some events if it reports these, in order, and then has its result
(`Instruments.Tells`). Computations in sequence tell their events in sequence, and the first that
fails tells the last. So there is one lemma a stage, and one for the whole: whatever the instruments
are, as long as they let valuations of the right size pass, a tabulation has the result of the
silent one, and the events that it tells are known from this result (`Report`).

An evaluation in which no variable lacks a value tells the same under every valuation
(`Rpn.complaint`). A formula tells nothing, and a sequence that is no formula fails in the first
row, so it has told about no row by then.
-/

namespace Propositional

namespace Rpn

/-! ### Complaints -/

/-- What an evaluation tells that has come to the end: how much is left, unless it is one value. -/
def remarks (rpn : Rpn) : Except Error (List Bool) → List Event
  | .ok [_] | .error _ => []
  | .ok stack => [.unsettled rpn stack.length]

/-- What an evaluation tells in which no variable lacks a value. -/
def complaint (rpn : Rpn) : List Event :=
  match Formula.build [] rpn with
  | some [_] | none => []
  | some stack => [.unsettled rpn stack.length]

/-- Without a missing value the values themselves do not matter. -/
theorem remarks_run {ρ : Assignment} {rpn : Rpn} (h : ∀ x ∈ rpn.leaves, ρ x ≠ none) :
    rpn.remarks (rpn.run ρ) = rpn.complaint := by
  have hrun : rpn.run ρ = Formula.stackValues ρ.total (Formula.build [] rpn) :=
    run_values (fun x hx => Assignment.eq_some_total (h x hx)) []
  rw [hrun, complaint]
  cases Formula.build [] rpn with
  | none => rfl
  | some stack =>
      rcases stack with _ | ⟨f, _ | ⟨g, rest⟩⟩
      · rfl
      · rfl
      · simp [Formula.stackValues, remarks]

theorem complaint_of_formula {rpn : Rpn} {f : Formula} (h : Formula.ofRpn rpn = .ok f) :
    rpn.complaint = [] := by
  rw [complaint, Formula.build_of_ofRpn h]

theorem complaint_of_not_supplied {rpn : Rpn} (h : ¬ rpn.Supplied) : rpn.complaint = [] := by
  rw [complaint]
  cases hbuild : Formula.build [] rpn with
  | none => rfl
  | some stack => exact absurd (Formula.build_ne_none_iff.1 (by simp [hbuild])) h

theorem complaint_of_supplied {rpn : Rpn} (h : rpn.Supplied) (hne : rpn.surplus ≠ 1) :
    ∃ count : Nat, (count : Int) = rpn.surplus ∧ rpn.complaint = [.unsettled rpn count] := by
  obtain ⟨stack, hstack⟩ := Option.ne_none_iff_exists'.1 (Formula.build_ne_none_iff.2 h)
  have hlength := Formula.length_of_build hstack
  refine ⟨stack.length, hlength, ?_⟩
  rw [complaint, hstack]
  rcases stack with _ | ⟨f, _ | ⟨g, rest⟩⟩
  · rfl
  · exact absurd hlength.symm hne
  · rfl

end Rpn

/-! ### The report of a tabulation -/

/-- What is told of a canonical text, by the outcome of its tabulation. -/
inductive Report (text : Text) : List Event → Except Error Table → Prop where
  /-- There is no letter. -/
  | noVariables : Report text [.noVariables text] (.error .noVariables)
  /-- There are more letters than the limit admits. -/
  | overLimit {vars : VariableSet} {limit : Nat} (hvars : VariableSet.ofText text = .ok vars) :
    Report text [.variablesFound text vars, .overLimit text vars.size limit]
      (.error (.tooManyVariables vars.size limit))
  /-- The text is not compiled. -/
  | notCompiled {vars : VariableSet} {e : Error} (hvars : VariableSet.ofText text = .ok vars)
    (hrpn : Rpn.compile text = .error e) : Report text [.variablesFound text vars] (.error e)
  /-- An operator lacks operands. -/
  | noOperand {vars : VariableSet} {rpn : Rpn} (hvars : VariableSet.ofText text = .ok vars)
    (hrpn : Rpn.compile text = .ok rpn) (h : ¬ rpn.Supplied) :
    Report text [.variablesFound text vars, .compiled text rpn] (.error .malformed)
  /-- More than one value is left. -/
  | leftover {vars : VariableSet} {rpn : Rpn} {count : Nat}
    (hvars : VariableSet.ofText text = .ok vars) (hrpn : Rpn.compile text = .ok rpn)
    (h : rpn.Supplied) (hcount : (count : Int) = rpn.surplus) (two_le : 2 ≤ count) :
    Report text [.variablesFound text vars, .compiled text rpn, .unsettled rpn count]
      (.error .malformed)
  /-- There is a table. -/
  | table {t : Table} {rpn : Rpn} (hvars : VariableSet.ofText text = .ok t.vars)
    (hrpn : Rpn.compile text = .ok rpn) (hrows : t.rows.length = 2 ^ t.vars.size) :
    Report text (.variablesFound text t.vars :: .compiled text rpn ::
      (t.rows.map (fun r => .row r.inputs r.output) ++ [.tabulated (2 ^ t.vars.size) text])) (.ok t)

/-- A sequence that is no formula is reported by what it leaves. -/
theorem Report.of_no_formula {text : Text} {vars : VariableSet} {rpn : Rpn} {e : Error}
    (hvars : VariableSet.ofText text = .ok vars) (hrpn : Rpn.compile text = .ok rpn)
    (hf : Formula.ofRpn rpn = .error e) :
    Report text (.variablesFound text vars :: .compiled text rpn :: rpn.complaint)
      (.error .malformed) := by
  obtain ⟨-, hnone⟩ := Formula.ofRpn_eq_error_iff.1 hf
  by_cases hsupplied : rpn.Supplied
  · have hsurplus : rpn.surplus ≠ 1 := by
      intro hone
      exact hnone (Formula.exists_postorder_iff.2 ⟨hsupplied, hone⟩)
    obtain ⟨count, hcount, hcomplaint⟩ := Rpn.complaint_of_supplied hsupplied hsurplus
    -- The letters of the text are items, so the sequence is not empty.
    have hne : rpn ≠ [] := by
      rintro rfl
      exact (VariableSet.ofText_eq_ok_iff.1 hvars).1 (Yard.leaves_of_compile hrpn).symm
    have hpos := Rpn.surplus_pos_of_supplied hsupplied hne
    rw [hcomplaint]
    exact .leftover hvars hrpn hsupplied hcount (by omega)
  · rw [Rpn.complaint_of_not_supplied hsupplied]
    exact .noOperand hvars hrpn hsupplied

namespace Instruments

variable {m : Type → Type} [Monad m] [LawfulMonad m] {tools : Instruments m} {α β : Type}

/-! ### Telling -/

/-- The computation reports the events, in order, and then has the result. -/
def Tells (tools : Instruments m) (x : ExceptT Error m α) (events : List Event)
    (result : Except Error α) : Prop :=
  x.run = do
    events.forM tools.record
    pure result

/-- Valuations of the right size are let pass. -/
def Permits (tools : Instruments m) : Prop :=
  ∀ (vars : VariableSet) (v : Valuation), v.size = vars.size → tools.check vars v = pure ()

theorem tells_pure (a : α) : tools.Tells (pure a) [] (.ok a) := by
  simp [Tells]

theorem tells_throw (e : Error) : tools.Tells (throw e : ExceptT Error m α) [] (.error e) := by
  simp [Tells]

theorem tells_record (event : Event) :
    tools.Tells (liftM (tools.record event)) [event] (.ok ()) := by
  simp [Tells]

theorem tells_check {vars : VariableSet} {v : Valuation} (h : tools.check vars v = pure ()) :
    tools.Tells (liftM (tools.check vars v)) [] (.ok ()) := by
  simp [Tells, h]

theorem Tells.bind {x : ExceptT Error m α} {f : α → ExceptT Error m β} {events later : List Event}
    {a : α} {result : Except Error β} (hx : tools.Tells x events (.ok a))
    (hf : tools.Tells (f a) later result) : tools.Tells (x >>= f) (events ++ later) result := by
  rw [Tells] at *
  rw [ExceptT.run_bind, hx, bind_assoc]
  simp [hf]

/-- What follows a failure is not computed. -/
theorem Tells.bind_error {x : ExceptT Error m α} {events : List Event} {e : Error}
    (hx : tools.Tells x events (.error e)) (f : α → ExceptT Error m β) :
    tools.Tells (x >>= f) events (.error e) := by
  rw [Tells] at *
  rw [ExceptT.run_bind, hx, bind_assoc]
  simp

theorem tells_record_bind {event : Event} {x : ExceptT Error m α} {later : List Event}
    {result : Except Error α} (hx : tools.Tells x later result) :
    tools.Tells (liftM (tools.record event) >>= fun _ => x) (event :: later) result :=
  (tells_record event).bind hx

/-- A traversal without a failure tells what its steps tell. -/
theorem tells_mapM {f : α → ExceptT Error m β} {event : α → Event} {g : α → β} {as : List α}
    (h : ∀ a ∈ as, tools.Tells (f a) [event a] (.ok (g a))) :
    tools.Tells (as.mapM f) (as.map event) (.ok (as.map g)) := by
  induction as with
  | nil => exact tells_pure []
  | cons a as ih =>
      have hrest := ih fun b hb => h b (List.mem_cons_of_mem a hb)
      rw [List.mapM_cons]
      refine (h a List.mem_cons_self).bind ?_
      rw [← List.append_nil (as.map event)]
      exact hrest.bind (tells_pure _)

/-! ### The stages -/

theorem tells_findVariables {text : Text} {vars : VariableSet}
    (h : VariableSet.ofText text = .ok vars) :
    tools.Tells (tools.findVariables text) [.variablesFound text vars] (.ok vars) := by
  rw [findVariables, h]
  exact tells_record_bind (tells_pure vars)

theorem tells_findVariables_error {text : Text} {e : Error}
    (h : VariableSet.ofText text = .error e) :
    tools.Tells (tools.findVariables text) [.noVariables text] (.error e) := by
  rw [findVariables, h]
  exact tells_record_bind (tells_throw e)

theorem tells_compile {text : Text} {rpn : Rpn} (h : Rpn.compile text = .ok rpn) :
    tools.Tells (tools.compile text) [.compiled text rpn] (.ok rpn) := by
  rw [compile, h]
  exact tells_record_bind (tells_pure rpn)

theorem tells_compile_error {text : Text} {e : Error} (h : Rpn.compile text = .error e) :
    tools.Tells (tools.compile text) [] (.error e) := by
  rw [compile, h]
  exact tells_throw e

/-- An evaluation that is let pass has the result of the silent one, and remarks on what is left. -/
theorem tells_eval {vars : VariableSet} {rpn : Rpn} {v : Valuation}
    (hcheck : tools.check vars v = pure ()) :
    tools.Tells (tools.eval vars rpn v) (rpn.remarks (rpn.run (vars.assign v)))
      (rpn.evalUnder vars v) := by
  show tools.Tells _ ([] ++ rpn.remarks (rpn.run (vars.assign v))) _
  refine (tells_check hcheck).bind ?_
  rw [Rpn.evalUnder, Rpn.eval]
  cases rpn.run (vars.assign v) with
  | error e => exact tells_throw e
  | ok stack =>
      rcases stack with _ | ⟨b, _ | ⟨c, rest⟩⟩
      · exact tells_record_bind (tells_throw .malformed)
      · exact tells_pure b
      · exact tells_record_bind (tells_throw .malformed)

section Rows

variable (htools : tools.Permits) {text : Text} {vars : VariableSet} {rpn : Rpn}
  (hvars : VariableSet.ofText text = .ok vars) (hrpn : Rpn.compile text = .ok rpn)
include htools hvars hrpn

/-- Every variable has a column, so an evaluation is about the formula alone. -/
theorem tells_eval_of_compile {v : Valuation} (hv : v.size = vars.size) :
    tools.Tells (tools.eval vars rpn v) rpn.complaint
      ((Formula.ofRpn rpn).map fun f => f.value (vars.assign v).total) := by
  have hassigned : ∀ x ∈ rpn.leaves, vars.assign v x ≠ none := fun x hx =>
    VariableSet.assign_ne_none hv (Table.leaves_mem_of_ofText hvars hrpn hx)
  rw [← Rpn.remarks_run hassigned, ← Table.evalUnder_of_compile hvars hrpn hv]
  exact tells_eval (htools vars v hv)

theorem tells_row {f : Formula} (hf : Formula.ofRpn rpn = .ok f) (i : Nat) :
    let r := Row.ofFormula vars f i
    tools.Tells (tools.row vars rpn r.inputs) [.row r.inputs r.output] (.ok r) := by
  intro r
  have heval := tells_eval_of_compile htools hvars hrpn (Bits.length_ofNat vars.size i)
  rw [Rpn.complaint_of_formula hf, hf] at heval
  exact heval.bind (tells_record_bind (tells_pure r))

theorem tells_row_error {e : Error} (hf : Formula.ofRpn rpn = .error e) {v : Valuation}
    (hv : v.size = vars.size) : tools.Tells (tools.row vars rpn v) rpn.complaint (.error e) := by
  have heval := tells_eval_of_compile htools hvars hrpn hv
  rw [hf] at heval
  exact heval.bind_error _

/-- The rows of a formula are told one by one. -/
theorem tells_rows {f : Formula} (hf : Formula.ofRpn rpn = .ok f) :
    let rows := (Table.ofFormula text vars f).rows
    tools.Tells ((Enumeration.ofSize vars.size).mapM (tools.row vars rpn))
      (rows.map fun r => .row r.inputs r.output) (.ok rows) := by
  intro rows
  rw [Enumeration.mapM_eq_toList_mapM, Enumeration.toList_ofSize, List.mapM_map]
  have hrows : rows = (List.range (2 ^ vars.size)).map (Row.ofFormula vars f) := rfl
  rw [hrows, List.map_map]
  exact tells_mapM fun i _ => tells_row htools hvars hrpn hf i

/-- Without a formula the first row fails, and no other is computed. -/
theorem tells_rows_error {e : Error} (hf : Formula.ofRpn rpn = .error e) :
    tools.Tells ((Enumeration.ofSize vars.size).mapM (tools.row vars rpn)) rpn.complaint
      (.error e) := by
  rw [Enumeration.mapM_eq_toList_mapM, Enumeration.ofSize, Enumeration.toList_some,
    List.mapM_cons]
  exact (tells_row_error htools hvars hrpn hf (List.length_replicate ..)).bind_error _

end Rows

/-! ### Tables -/

/-- A tabulation has the result of the silent one, and tells the report of that result, whatever
the instruments are. -/
theorem tells_tabulate (config : Config) (text : Text) :
    ∃ events, Report text events (Table.tabulate config text) ∧
      ∀ tools : Instruments m, tools.Permits →
        tools.Tells (tools.tabulate config text) events (Table.tabulate config text) := by
  rw [Table.tabulate_eq_ofFormula]
  cases hvars : VariableSet.ofText text with
  | error e =>
      obtain ⟨rfl, -⟩ := VariableSet.ofText_eq_error_iff.1 hvars
      refine ⟨_, .noVariables, fun tools _ => ?_⟩
      exact (tells_findVariables_error hvars).bind_error _
  | ok vars =>
      have hfind (tools : Instruments m) : tools.Tells _ _ (.ok vars) := tells_findVariables hvars
      rw [ok_bind]
      by_cases hlt : config.limit < vars.size
      · rw [if_pos hlt]
        refine ⟨_, .overLimit hvars, fun tools _ => (hfind tools).bind ?_⟩
        rw [if_pos hlt]
        exact tells_record_bind ((tells_throw _).bind_error _)
      · rw [if_neg hlt, Formula.parse]
        cases hrpn : Rpn.compile text with
        | error e =>
            refine ⟨_, .notCompiled hvars hrpn, fun tools _ => ?_⟩
            show tools.Tells _ ([.variablesFound text vars] ++ []) _
            refine (hfind tools).bind ?_
            rw [if_neg hlt]
            exact (tells_compile_error hrpn).bind_error _
        | ok rpn =>
            have hcompile (tools : Instruments m) : tools.Tells _ _ (.ok rpn) := tells_compile hrpn
            cases hf : Formula.ofRpn rpn with
            | error e =>
                obtain rfl := Formula.eq_malformed_of_ofRpn hf
                rw [ok_bind, hf]
                refine ⟨_, .of_no_formula hvars hrpn hf, fun tools htools => ?_⟩
                refine (hfind tools).bind ?_
                rw [if_neg hlt]
                exact (hcompile tools).bind ((tells_rows_error htools hvars hrpn hf).bind_error _)
            | ok f =>
                have hrows : (Table.ofFormula text vars f).rows.length = 2 ^ vars.size :=
                  by rw [Table.ofFormula, List.length_map, List.length_range]
                rw [ok_bind, hf]
                refine ⟨_, .table (t := Table.ofFormula text vars f) hvars hrpn hrows,
                  fun tools htools => (hfind tools).bind ?_⟩
                rw [if_neg hlt]
                refine (hcompile tools).bind ((tells_rows htools hvars hrpn hf).bind ?_)
                rw [hrows]
                exact tells_record_bind (tells_pure _)

/-- In another notation the conversion is told before. -/
theorem tells_tabulateText (config : Config) (style : Notation) (text : Text) :
    let canonical := text.canonical style
    ∃ events, Report canonical events (Table.tabulate config canonical) ∧
      ∀ tools : Instruments m, tools.Permits →
        tools.Tells (tools.tabulateText config style text)
          (.converted text style canonical .symbolic :: events)
          (Table.tabulateText config style text) := by
  intro canonical
  obtain ⟨events, hreport, htells⟩ := tells_tabulate (m := m) config canonical
  refine ⟨events, hreport, fun tools htools => ?_⟩
  have htable := htells tools htools
  have hconvert : tools.Tells (liftM (tools.convert style .symbolic text))
      [.converted text style canonical .symbolic] (.ok canonical) := by
    simp [Tells, convert, canonical, Except.map]
  refine hconvert.bind ?_
  rw [Table.tabulateText_eq]
  cases hresult : Table.tabulate config canonical with
  | error e =>
      rw [hresult] at htable
      exact htable.bind_error _
  | ok t =>
      rw [hresult] at htable
      rw [← List.append_nil events]
      exact htable.bind (tells_pure _)

end Instruments

end Propositional

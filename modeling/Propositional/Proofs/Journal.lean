import Propositional.Journal
import Propositional.Proofs.Event
import Propositional.Proofs.Instruments
/-!
# Propositional.Proofs.Journal

What the log of a tabulation says.

The journal holds what the stages tell and the facade lets through, and nothing else, so its records
are those of the report that are let through (`read_of_tells`). Whether an event is entered makes no
difference to what follows, and so the result and the report are the same at every threshold. The
report is known from the result, and therefore so is the log (`Account`): a tabulation that fails
has written no row, because without a formula the first row fails already.
-/

namespace Propositional

namespace Event

variable {facade : Facade} (hfacade : facade.Graded)
include hfacade

/-- At the last level nothing is left out. -/
theorem records_trace (events : List Event) :
    records (some .trace) events facade = events.map record := by
  have hall : events.filter (fun event => facade (some .trace) event.level) = events :=
    List.filter_eq_self.2 fun event _ => (hfacade.upTo .trace event.level).2 event.level.le_trace
  rw [records, hall]

/-- Without a threshold nothing is written. -/
theorem records_off (events : List Event) : records none events facade = [] := by
  have hnone : events.filter (fun event => facade none event.level) = [] :=
    List.filter_eq_nil_iff.2 fun event _ => by simp [hfacade.off]
  rw [records, hnone, List.map_nil]

/-- At a level the records are those that matter at least as much, in the same order. -/
theorem records_eq_filter (level : Level) (events : List Event) :
    records (some level) events facade =
      (records (some .trace) events facade).filter (·.level ≤ level) := by
  have hlevel : (fun event : Event => facade (some level) event.level) =
      fun event => decide (event.level ≤ level) := by
    funext event
    rw [Bool.eq_iff_iff, hfacade.upTo, decide_eq_true_iff]
  rw [records_trace hfacade, records, hlevel, List.filter_map]
  rfl

end Event

namespace Journal

variable {α : Type} {lets : Level → Bool}

/-! ### Reading -/

/-- The events that are let through are entered in front of the earlier ones, the latest first. -/
theorem run_forM_record (events log : List Event) :
    (events.forM (instruments lets).record).run log =
      ((), (events.filter (lets ·.level)).reverse ++ log) := by
  induction events generalizing log with
  | nil => rfl
  | cons event events ih =>
      have hstep : ((instruments lets).record event).run log =
          ((), if lets event.level then event :: log else log) := by
        show (if lets event.level then modify (event :: ·) else pure () : Journal Unit).run log = _
        cases lets event.level <;> rfl
      show ((instruments lets).record event >>= fun _ =>
        events.forM (instruments lets).record).run log = _
      rw [StateT.run_bind, hstep]
      show (events.forM (instruments lets).record).run _ = _
      rw [ih]
      cases hlets : lets event.level with
      | false => simp [hlets]
      | true => simp [hlets]

/-- What is read is what is told and let through. -/
theorem read_of_tells {x : ExceptT Error Journal α} {events : List Event} {result : Except Error α}
    (h : (instruments lets).Tells x events result) :
    read x.run = (result, events.filter (lets ·.level)) := by
  have hrun : x.run.run [] = (result, (events.filter (lets ·.level)).reverse) := by
    rw [h, StateT.run_bind, run_forM_record, List.append_nil]
    rfl
  rw [read, hrun]
  exact congrArg (Prod.mk result) (List.reverse_reverse _)

theorem permits_instruments : (instruments lets).Permits := fun _ _ _ => rfl

/-- Whatever is let through, the result is that of the silent tabulation, and the events are those
of its report that are let through. -/
theorem exists_report (config : Config) (style : Notation) (text : Text) :
    let canonical := text.canonical style
    ∃ events, Report canonical events (Table.tabulate config canonical) ∧
      ∀ lets, Journal.tabulateText config style text lets =
        (Table.tabulateText config style text,
          (.converted text style canonical .symbolic :: events).filter (lets ·.level)) := by
  intro canonical
  obtain ⟨events, hreport, htells⟩ :=
    Instruments.tells_tabulateText (m := Journal) config style text
  exact ⟨events, hreport, fun lets => read_of_tells (htells (instruments lets) permits_instruments)⟩

/-- It makes no difference whether an event is held back when it happens or afterwards. -/
theorem records_tabulateText (facade : Facade) (threshold : Option Level) (config : Config)
    (style : Notation) (text : Text) :
    Event.records threshold (Journal.tabulateText config style text).2 facade =
      (Journal.tabulateText config style text (facade threshold)).2.map Event.record := by
  obtain ⟨events, -, hrun⟩ := exists_report config style text
  rw [hrun, hrun, Event.records, List.filter_filter]
  simp

/-! ### The log of a tabulation -/

/-- What the log of a tabulation says, by the outcome. -/
def Account (style : Notation) (text : Text) (log : List Record) : Except Error Table → Prop :=
  let canonical := text.canonical style
  let shown := Event.quote canonical
  let normalized : Record :=
    ⟨.debug, "normalize", Event.quote text ++ " (" ++ style.name ++ ") normalized to " ++ shown ++
      " (" ++ "symbolic" ++ ")."⟩
  let extracted (vars : VariableSet) : Record :=
    ⟨.debug, "extract", "Variables of " ++ shown ++ ": " ++ vars.display⟩
  let compiled (rpn : Rpn) : Record :=
    ⟨.debug, "compile", shown ++ " compiled to " ++ Event.quote rpn.text ++ "."⟩
  let leftover (rpn : Rpn) (count : Nat) : Record :=
    ⟨.trace, "evaluate",
      String.ofList rpn.text ++ " leaves " ++ toString count ++ " values on the stack."⟩
  let row (r : Row) : Record :=
    ⟨.trace, "table", r.inputs.display ++ " -> " ++ if r.output then "true" else "false"⟩
  fun
  | .error .noVariables =>
    log = [normalized, ⟨.debug, "extract", "No variables in " ++ shown ++ "."⟩]
  | .error (.strayCharacter _) | .error .unbalanced =>
    ∃ vars, VariableSet.ofText canonical = .ok vars ∧ log = [normalized, extracted vars]
  | .error (.tooManyVariables found limit) =>
    ∃ vars, VariableSet.ofText canonical = .ok vars ∧
      log = [normalized, extracted vars,
        ⟨.warn, "table", "Formula " ++ shown ++ " has " ++ toString found ++
          " variables, limit is " ++ toString limit ++ "."⟩]
  | .error .malformed =>
    ∃ vars rpn, VariableSet.ofText canonical = .ok vars ∧ Rpn.compile canonical = .ok rpn ∧
      ((¬ rpn.Supplied ∧ log = [normalized, extracted vars, compiled rpn]) ∨
        (rpn.Supplied ∧ ∃ count, 2 ≤ count ∧
          count + rpn.connectives.length = rpn.leaves.length ∧
          log = [normalized, extracted vars, compiled rpn, leftover rpn count]))
  | .error (.unassigned _) => False
  | .ok t =>
    ∃ rpn, VariableSet.ofText canonical = .ok t.vars ∧ Rpn.compile canonical = .ok rpn ∧
      t.rows.length = 2 ^ t.vars.size ∧
      log = normalized :: extracted t.vars :: compiled rpn :: (t.rows.map row ++
        [⟨.debug, "table", "Generated " ++ toString (2 ^ t.vars.size) ++ " rows for " ++ shown ++
          "."⟩])

/-- The records of a report are those of the account. -/
theorem account_of_report {config : Config} {style : Notation} {text : Text} {events : List Event}
    (h : Report (text.canonical style) events (Table.tabulate config (text.canonical style))) :
    Account style text
      ((.converted text style (text.canonical style) .symbolic :: events).map Event.record)
      (Table.tabulateText config style text) := by
  rw [Table.tabulateText_eq]
  generalize Table.tabulate config (text.canonical style) = result at h
  cases h with
  | noVariables => rfl
  | overLimit hvars => exact ⟨_, hvars, rfl⟩
  | notCompiled hvars hrpn =>
      obtain rfl | ⟨c, rfl⟩ := Rpn.error_of_compile hrpn
      · exact ⟨_, hvars, rfl⟩
      · exact ⟨_, hvars, rfl⟩
  | noOperand hvars hrpn hsupplied => exact ⟨_, _, hvars, hrpn, .inl ⟨hsupplied, rfl⟩⟩
  | @leftover _ rpn count hvars hrpn hsupplied hcount two_le =>
      have hbalance := Rpn.surplus_add_connectives rpn
      exact ⟨_, _, hvars, hrpn, .inr ⟨hsupplied, count, two_le, by omega, rfl⟩⟩
  | @table t rpn hvars hrpn hrows =>
      refine ⟨rpn, hvars, hrpn, hrows, ?_⟩
      rw [List.map_cons, List.map_cons, List.map_cons, List.map_append, List.map_map]
      rfl

/-- A row is written at the last level, for the table. -/
def IsRow (record : Record) : Prop := record.level = .trace ∧ record.target = "table"

/-- A tabulation that fails has written no row. -/
theorem Account.not_isRow {style : Notation} {text : Text} {log : List Record} {e : Error}
    (h : Account style text log (.error e)) : ∀ record ∈ log, ¬ IsRow record := by
  cases e with
  | noVariables =>
      obtain rfl : log = _ := h
      simp [IsRow]
  | strayCharacter c =>
      obtain ⟨vars, -, rfl⟩ := h
      simp [IsRow]
  | unbalanced =>
      obtain ⟨vars, -, rfl⟩ := h
      simp [IsRow]
  | tooManyVariables found limit =>
      obtain ⟨vars, -, rfl⟩ := h
      simp [IsRow]
  | malformed =>
      obtain ⟨vars, rpn, -, -, ⟨-, rfl⟩ | ⟨-, count, -, -, rfl⟩⟩ := h
      · simp [IsRow]
      · simp [IsRow]
  | unassigned name => exact h.elim

/-- Whatever the facade is set to, the result is that of the tabulation without a log. The records
at the last level are an account of this result, and a tabulation that fails has written no row. At
another level the records are those that matter at least as much, and each tells what it reports. -/
theorem tabulateText_records (facade : Facade) (hfacade : facade.Graded) (config : Config)
    (style : Notation) (text : Text) :
    let run (threshold : Option Level) :=
      Journal.tabulateText config style text (facade threshold)
    let log (threshold : Option Level) := (run threshold).2.map Event.record
    let result := Table.tabulateText config style text
    (∀ threshold, (run threshold).1 = result) ∧
      Account style text (log (some .trace)) result ∧
      (∀ e, result = .error e → ∀ record ∈ log (some .trace), ¬ IsRow record) ∧
      (∀ level, log (some level) = (log (some .trace)).filter (·.level ≤ level)) ∧
      log none = [] ∧
      Function.Injective Event.record := by
  intro run log result
  obtain ⟨events, hreport, hrun⟩ := exists_report config style text
  have hlog : ∀ threshold, log threshold =
      Event.records threshold (Journal.tabulateText config style text).2 facade :=
    fun threshold => (records_tabulateText facade threshold config style text).symm
  have haccount : Account style text (log (some .trace)) result := by
    rw [hlog, Event.records_trace hfacade, hrun, List.filter_true]
    exact account_of_report hreport
  refine ⟨fun threshold => congrArg Prod.fst (hrun (facade threshold)), haccount, ?_, ?_, ?_,
    Event.record_injective⟩
  · intro e he
    rw [he] at haccount
    exact haccount.not_isRow
  · intro level
    rw [hlog, hlog, Event.records_eq_filter hfacade]
  · rw [hlog, Event.records_off hfacade]

/-- Of `p q` two values are left, and there is no row. At the level of the compilation the count is
not written, and at the level of the warnings nothing is. -/
theorem tabulateText_records_leftover :
    let text : Text := ['p', '\u00A0', 'q']
    let log (threshold : Option Level) :=
      (Journal.tabulateText {} .symbolic text (Facade.comparing threshold)).2.map Event.record
    let written : List Record :=
      [⟨.debug, "normalize", "\"p\\u\x7ba0\x7dq\" (symbolic) normalized to \"p q\" (symbolic)."⟩,
        ⟨.debug, "extract", "Variables of \"p q\": [p, q]"⟩,
        ⟨.debug, "compile", "\"p q\" compiled to \"p q\"."⟩]
    Facade.comparing.Graded ∧
      Table.tabulateText {} .symbolic text = .error .malformed ∧
      log (some .trace) =
        written ++ [⟨.trace, "evaluate", "p q leaves 2 values on the stack."⟩] ∧
      (∀ record ∈ log (some .trace), ¬ IsRow record) ∧
      log (some .debug) = written ∧ log (some .warn) = [] ∧ log none = [] := by
  intro text log written
  have hresult : Table.tabulateText {} .symbolic text = .error .malformed := by decide
  obtain ⟨-, -, hrow, hlevel, hoff, -⟩ :=
    tabulateText_records Facade.comparing Facade.graded_comparing {} .symbolic text
  have hlog : log (some .trace) =
      written ++ [⟨.trace, "evaluate", "p q leaves 2 values on the stack."⟩] := by
    decide +kernel
  have hfilter : ∀ level, log (some level) = (log (some .trace)).filter (·.level ≤ level) := hlevel
  refine ⟨Facade.graded_comparing, hresult, hlog, hrow .malformed hresult, ?_, ?_, hoff⟩
  · rw [hfilter, hlog]
    rfl
  · rw [hfilter, hlog]
    rfl

/-- The rows come between the compilation and their number. -/
example :
    let events := (Journal.tabulateText {} .symbolic ['¬', 'p']).2
    events.map (fun event => (event.level, event.target)) =
      [(.debug, "normalize"), (.debug, "extract"), (.debug, "compile"), (.trace, "table"),
        (.trace, "table"), (.debug, "table")] := by
  decide

end Journal

end Propositional

import Mathlib.Data.List.Count
import Propositional.Proofs.Rpn.Compilation
/-!
# Propositional.Proofs.Rpn.Refusal

Which texts are compiled, and what the others are refused for.

A text is read up to the first character that **offends**: one that no canonical text contains, or a
parenthesis that closes more groups than are open. `Text.Offends` says this of the characters alone.
The stack of what waits agrees with it, because whatever else waits there, it holds as many open
parentheses as the text has opened and not closed (`Yard.depth_of_foldlM_read`). So a text that
offends is refused at its first offence (`Yard.foldlM_read_eq_error_iff`), and of the others those
are refused in which a group is still open at the end.

What is compiled is complete. An operator has been put out or waits (`Yard.operators`), and when the
text has ended none waits any more.
-/

namespace Propositional

/-! ### Characters that offend -/

/-- A character that no canonical text contains. -/
def IsStray (c : Char) : Prop :=
  isBlank c = false ∧ c.isLower = false ∧ (∀ o : Operator, c ≠ o.symbol) ∧ c ≠ '(' ∧ c ≠ ')'

/-- The stray characters are those that are neither skipped nor read as a token. -/
theorem isStray_iff {c : Char} : IsStray c ↔ isBlank c = false ∧ Token.ofChar? c = none := by
  refine and_congr_right fun _ => ?_
  rw [Option.eq_none_iff_forall_ne_some]
  constructor
  · intro h t ht
    obtain ⟨hlower, hop, hopen, hclose⟩ := h
    obtain rfl := Token.ofChar?_eq_some_iff.1 ht
    cases t with
    | var x => exact Bool.eq_false_iff.1 hlower x.isLower
    | op o => exact hop o rfl
    | leftParen => exact hopen rfl
    | rightParen => exact hclose rfl
  · intro h
    have hchar : ∀ t : Token, c ≠ t.char := by
      intro t hc
      exact h t (Token.ofChar?_eq_some_iff.2 hc.symm)
    refine ⟨?_, fun o => hchar (.op o), hchar .leftParen, hchar .rightParen⟩
    by_contra hlower
    exact hchar (.var ⟨c, by simpa using hlower⟩) rfl

namespace Text

/-- What is wrong with a character behind `front`, if anything is. -/
inductive Offends (front : Text) : Char → Error → Prop where
  | stray {c : Char} (h : IsStray c) : Offends front c (.strayCharacter c)
  /-- No group is open that the parenthesis could close. -/
  | unopened (h : front.count '(' ≤ front.count ')') : Offends front ')' .unbalanced

/-- No character of the text offends. -/
def Flawless (text : Text) : Prop :=
  ∀ front c rest e, text = front ++ c :: rest → ¬ Offends front c e

/-- The first character of the text that offends does so for this reason. -/
def FirstOffence (text : Text) (e : Error) : Prop :=
  ∃ front c rest, text = front ++ c :: rest ∧ front.Flawless ∧ Offends front c e

end Text

/-! ### Counting characters -/

/-- A token is written with a character of its own. -/
theorem Token.count_char (t s : Token) : [t.char].count s.char = if t = s then 1 else 0 := by
  by_cases h : t = s
  · simp [h]
  · rw [if_neg h, List.count_eq_zero, List.mem_singleton]
    exact fun hc => h (Token.char_injective hc.symm)

theorem Token.count_char_of_isBlank {c : Char} (h : isBlank c = true) (t : Token) :
    [c].count t.char = 0 := by
  rw [List.count_eq_zero, List.mem_singleton]
  intro hc
  rw [← hc, t.isBlank_char] at h
  cases h

namespace Yard

/-! ### Open parentheses -/

theorem depth_of_read {yard next : Yard} {c : Char} (h : yard.read c = .ok next) :
    next.depth + [c].count ')' = yard.depth + [c].count '(' := by
  rcases read_cases h with ⟨hc, rfl⟩ | ⟨t, rfl, ht⟩
  · have hopen : [c].count '(' = 0 := Token.count_char_of_isBlank hc .leftParen
    have hclose : [c].count ')' = 0 := Token.count_char_of_isBlank hc .rightParen
    rw [hopen, hclose]
  · have hopen : [t.char].count '(' = _ := t.count_char .leftParen
    have hclose : [t.char].count ')' = _ := t.count_char .rightParen
    have hdepth := depth_of_push yard t
    rw [ht] at hdepth
    rw [hopen, hclose]
    exact Token.depth_balance hdepth.symm

/-- The open parentheses are those that the text has opened and not closed. -/
theorem depth_of_foldlM_read {text : Text} {yard : Yard}
    (h : text.foldlM read empty = .ok yard) :
    yard.depth + text.count ')' = text.count '(' := by
  refine foldlM_induction (motive := fun front mid => mid.depth + front.count ')' = front.count '(')
    h rfl ?_
  intro front mid c next hmid hnext
  have hstep := depth_of_read hnext
  rw [List.count_append, List.count_append]
  omega

/-! ### The first offence -/

/-- A token is refused only if it closes a group and none is open. -/
theorem push_eq_error_iff {yard : Yard} {t : Token} {e : Error} :
    yard.push t = .error e ↔ t = .rightParen ∧ yard.depth = 0 ∧ e = .unbalanced := by
  have hnone : (yard.push t).toOption.map depth = none ↔ t = .rightParen ∧ yard.depth = 0 := by
    rw [depth_of_push, Token.depth?_eq_none_iff]
  cases hpush : yard.push t with
  | ok next =>
      refine iff_of_false (by simp) ?_
      intro h
      have hok := hnone.2 ⟨h.1, h.2.1⟩
      rw [hpush] at hok
      cases hok
  | error e' =>
      obtain ⟨rfl, hdepth⟩ := hnone.1 (by rw [hpush]; rfl)
      obtain rfl := eq_unbalanced_of_closeGroup hpush
      simp [hdepth, eq_comm]

/-- A character is refused exactly if it offends behind the text that has been read. -/
theorem read_eq_error_iff {front : Text} {yard : Yard} (h : front.foldlM read empty = .ok yard)
    {c : Char} {e : Error} : yard.read c = .error e ↔ front.Offends c e := by
  -- All that a refusal depends on in the state is whether a group is open.
  have hopen : yard.depth = 0 ↔ front.count '(' ≤ front.count ')' := by
    have := depth_of_foldlM_read h
    omega
  constructor
  · intro hread
    unfold read at hread
    split at hread
    · cases hread
    · next hblank =>
      split at hread
      · next t ht =>
        obtain rfl := Token.ofChar?_eq_some_iff.1 ht
        obtain ⟨rfl, hdepth, rfl⟩ := push_eq_error_iff.1 hread
        exact .unopened (hopen.1 hdepth)
      · next hnone =>
        cases hread
        exact .stray (isStray_iff.2 ⟨by simpa using hblank, hnone⟩)
  · intro hoffends
    cases hoffends with
    | stray hstray =>
        obtain ⟨hblank, hnone⟩ := isStray_iff.1 hstray
        simp [read, hblank, hnone]
    | unopened hcount =>
        exact (read_char yard .rightParen).trans (push_eq_error_iff.2 ⟨rfl, hopen.2 hcount, rfl⟩)

/-- A text is read to its end exactly if none of its characters offends. -/
theorem exists_foldlM_read_iff (text : Text) :
    (∃ yard, text.foldlM read empty = .ok yard) ↔ text.Flawless := by
  constructor
  · intro h front c rest e hsplit hoffends
    obtain ⟨yard, hyard⟩ := h
    rw [hsplit, List.foldlM_append] at hyard
    obtain ⟨mid, hmid, hrest⟩ := bind_eq_ok_iff.1 hyard
    rw [List.foldlM_cons, (read_eq_error_iff hmid).2 hoffends] at hrest
    cases hrest
  · intro h
    cases hread : text.foldlM read empty with
    | ok yard => exact ⟨yard, rfl⟩
    | error e =>
        obtain ⟨front, c, rest, mid, hsplit, hmid, hc⟩ := foldlM_eq_error_iff.1 hread
        exact absurd ((read_eq_error_iff hmid).1 hc) (h front c rest e hsplit)

theorem foldlM_read_eq_error_iff (text : Text) (e : Error) :
    text.foldlM read empty = .error e ↔ text.FirstOffence e := by
  rw [foldlM_eq_error_iff]
  constructor
  · intro h
    obtain ⟨front, c, rest, mid, hsplit, hmid, hc⟩ := h
    exact ⟨front, c, rest, hsplit, (exists_foldlM_read_iff front).1 ⟨mid, hmid⟩,
      (read_eq_error_iff hmid).1 hc⟩
  · intro h
    obtain ⟨front, c, rest, hsplit, hfront, hoffends⟩ := h
    obtain ⟨mid, hmid⟩ := (exists_foldlM_read_iff front).2 hfront
    exact ⟨front, c, rest, mid, hsplit, hmid, (read_eq_error_iff hmid).2 hoffends⟩

theorem finish_eq_error_iff {yard : Yard} {e : Error} :
    yard.finish = .error e ↔ yard.depth ≠ 0 ∧ e = .unbalanced := by
  have hok := exists_finish_iff yard
  cases hfinish : yard.finish with
  | ok rpn =>
      have hdepth := hok.1 ⟨rpn, hfinish⟩
      simp [hdepth]
  | error e' =>
      obtain rfl := eq_unbalanced_of_flush hfinish
      have hdepth : yard.depth ≠ 0 := by
        intro hdepth
        obtain ⟨rpn, hrpn⟩ := hok.2 hdepth
        rw [hfinish] at hrpn
        cases hrpn
      simp [hdepth, eq_comm]

/-! ### Operators -/

/-- How often an operator has been put out or waits. -/
def operators (yard : Yard) (o : Operator) : Nat :=
  yard.output.count (.op o) + yard.waiting.count (.op o)

theorem count_issue (ops : List Operator) (output : List RpnItem) (o : Operator) :
    (issue ops output).count (.op o) = ops.count o + output.count (.op o) := by
  rw [issue, List.count_append, List.count_reverse,
    List.count_map_of_injective _ _ fun _ _ => RpnItem.op.inj]

theorem count_waiting_append (ops : List Operator) (rest : List Waiting) (o : Operator) :
    (ops.map Waiting.op ++ rest).count (.op o) = ops.count o + rest.count (.op o) := by
  rw [List.count_append, List.count_map_of_injective _ _ fun _ _ => Waiting.op.inj]

/-- An operator that is issued is in the output and no longer on the stack. -/
theorem operators_issue (ops : List Operator) (output : List RpnItem) (rest : List Waiting)
    (o : Operator) :
    operators ⟨issue ops output, rest⟩ o = operators ⟨output, ops.map .op ++ rest⟩ o := by
  simp only [operators, count_issue, count_waiting_append]
  omega

theorem operators_mk_op (output : List RpnItem) (waiting : List Waiting) (o o' : Operator) :
    operators ⟨output, .op o' :: waiting⟩ o =
      operators ⟨output, waiting⟩ o + if Token.op o' = Token.op o then 1 else 0 := by
  by_cases h : o' = o
  · simp [operators, h, Nat.add_assoc]
  · simp [operators, h]

/-- Operators are moved and not lost, and each one that is read is added. -/
theorem operators_of_push {yard next : Yard} {t : Token} (h : yard.push t = .ok next)
    (o : Operator) : next.operators o = yard.operators o + [t.char].count o.symbol := by
  have hcount : [t.char].count o.symbol = _ := t.count_char (.op o)
  rw [hcount]
  cases t with
  | var x =>
      cases h
      simp [operators]
  | op o' =>
      obtain ⟨ops, rest, hwaiting, hrel⟩ := release_eq o'.precedence yard.output yard.waiting
      cases h
      rw [operators_mk_op, hrel, operators_issue, ← hwaiting]
  | leftParen =>
      cases h
      simp [operators]
  | rightParen =>
      -- The parenthesis that leaves the stack is no operator, so it is in neither count.
      obtain ⟨ops, hwaiting, houtput⟩ := issued_of_closeGroup h
      have hgroup : (Waiting.group :: next.waiting).count (.op o) = next.waiting.count (.op o) :=
        List.count_cons_of_ne (by simp)
      rw [if_neg (by simp)]
      simp only [operators, hwaiting, houtput, count_issue, count_waiting_append, hgroup]
      omega

theorem operators_of_read {yard next : Yard} {c : Char} (h : yard.read c = .ok next)
    (o : Operator) : next.operators o = yard.operators o + [c].count o.symbol := by
  rcases read_cases h with ⟨hc, rfl⟩ | ⟨t, rfl, ht⟩
  · have hcount : [c].count o.symbol = 0 := Token.count_char_of_isBlank hc (.op o)
    rw [hcount, Nat.add_zero]
  · exact operators_of_push ht o

theorem operators_of_foldlM_read {text : Text} {yard : Yard}
    (h : text.foldlM read empty = .ok yard) (o : Operator) :
    yard.operators o = text.count o.symbol := by
  refine foldlM_induction (motive := fun front mid => mid.operators o = front.count o.symbol)
    h rfl ?_
  intro front mid c next hmid hnext
  rw [operators_of_read hnext, hmid, List.count_append]

/-- When the text has ended, every operator is put out. -/
theorem count_op_of_finish {yard : Yard} {rpn : Rpn} (h : yard.finish = .ok rpn) (o : Operator) :
    rpn.count (.op o) = yard.operators o := by
  obtain ⟨ops, hwaiting, rfl⟩ := issued_of_flush h
  have hall := operators_issue ops yard.output [] o
  rw [List.append_nil, ← hwaiting] at hall
  rw [List.count_reverse, ← hall]
  simp [operators]

end Yard

namespace Rpn

/-- An item is never a parenthesis. -/
theorem token_ne_paren (item : RpnItem) : item.token ≠ .leftParen ∧ item.token ≠ .rightParen := by
  cases item <;> simp [RpnItem.token]

theorem compile_eq_error_iff (text : Text) (e : Error) :
    compile text = .error e ↔
      text.FirstOffence e ∨
        text.Flawless ∧ text.count ')' < text.count '(' ∧ e = .unbalanced := by
  rw [compile, bind_eq_error_iff, Yard.foldlM_read_eq_error_iff, ← Yard.exists_foldlM_read_iff]
  refine or_congr_right ⟨fun h => ?_, fun h => ?_⟩
  · obtain ⟨yard, hyard, hfinish⟩ := h
    obtain ⟨hdepth, rfl⟩ := Yard.finish_eq_error_iff.1 hfinish
    have hcount := Yard.depth_of_foldlM_read hyard
    exact ⟨⟨yard, hyard⟩, by omega, rfl⟩
  · obtain ⟨⟨yard, hyard⟩, hopen, rfl⟩ := h
    have hcount := Yard.depth_of_foldlM_read hyard
    exact ⟨yard, hyard, Yard.finish_eq_error_iff.2 ⟨by omega, rfl⟩⟩

/-- Compilation judges characters and parentheses only. -/
theorem error_of_compile {text : Text} {e : Error} (h : compile text = .error e) :
    e = .unbalanced ∨ ∃ c, e = .strayCharacter c := by
  rcases (compile_eq_error_iff text e).1 h with ⟨front, c, rest, -, -, hoffends⟩ | ⟨-, -, he⟩
  · cases hoffends with
    | stray => exact Or.inr ⟨c, rfl⟩
    | unopened => exact Or.inl rfl
  · exact Or.inl he

theorem exists_compile_iff (text : Text) :
    (∃ rpn, compile text = .ok rpn) ↔ text.Flawless ∧ text.count '(' ≤ text.count ')' := by
  rw [← Yard.exists_foldlM_read_iff]
  constructor
  · intro h
    obtain ⟨rpn, hrpn⟩ := h
    obtain ⟨yard, hyard, hfinish⟩ := bind_eq_ok_iff.1 hrpn
    have hdepth := (Yard.exists_finish_iff yard).1 ⟨rpn, hfinish⟩
    have hcount := Yard.depth_of_foldlM_read hyard
    exact ⟨⟨yard, hyard⟩, by omega⟩
  · intro h
    obtain ⟨⟨yard, hyard⟩, hclosed⟩ := h
    have hcount := Yard.depth_of_foldlM_read hyard
    obtain ⟨rpn, hrpn⟩ := (Yard.exists_finish_iff yard).2 (by omega)
    exact ⟨rpn, bind_eq_ok_iff.2 ⟨yard, hyard, hrpn⟩⟩

/-- A compiled text has each operator as often as the text. -/
theorem count_op_of_compile {text : Text} {rpn : Rpn} (h : compile text = .ok rpn)
    (o : Operator) : rpn.count (.op o) = text.count o.symbol := by
  obtain ⟨yard, hyard, hfinish⟩ := bind_eq_ok_iff.1 h
  rw [Yard.count_op_of_finish hfinish, Yard.operators_of_foldlM_read hyard]

/-- The first character that offends decides the outcome of a compilation. Without one, a text in
which a group is still open at the end is refused, and every other text is compiled: without
parentheses, with its variables in their order and with each operator as often as it occurs. -/
theorem compile_outcome (text : Text) :
    (∀ e, compile text = .error e ↔
      text.FirstOffence e ∨
        text.Flawless ∧ text.count ')' < text.count '(' ∧ e = .unbalanced) ∧
    ((∃ rpn, compile text = .ok rpn) ↔ text.Flawless ∧ text.count '(' ≤ text.count ')') ∧
    ∀ rpn, compile text = .ok rpn →
      (∀ item ∈ rpn, item.token ≠ .leftParen ∧ item.token ≠ .rightParen) ∧
      rpn.leaves = text.filterMap Variable.ofChar? ∧
      ∀ o, rpn.count (.op o) = text.count o.symbol := by
  refine ⟨compile_eq_error_iff text, exists_compile_iff text, ?_⟩
  intro rpn h
  exact ⟨fun item _ => token_ne_paren item, Yard.leaves_of_compile h, count_op_of_compile h⟩

/-- In `p) & (q` the parenthesis comes first. The text `¬(p → q)¬` is compiled with both of its
signs. -/
theorem compile_outcome_parenthesis_first :
    let bad : Text := ['p', ')', ' ', '&', ' ', '(', 'q']
    let good : Text := ['¬', '(', 'p', '→', 'q', ')', '¬']
    bad.FirstOffence .unbalanced ∧ good.Flawless ∧
      ∃ rpn, compile good = .ok rpn ∧ rpn.count (.op .not) = 2 := by
  intro bad good
  have hbad := ((compile_outcome bad).1 .unbalanced).1 (by decide)
  have hgood := (compile_outcome good).2
  obtain ⟨rpn, hrpn⟩ : ∃ rpn, compile good = .ok rpn := ⟨_, by rfl⟩
  refine ⟨hbad.resolve_right ?_, (hgood.1.1 ⟨rpn, hrpn⟩).1, rpn, hrpn, ?_⟩
  · intro h
    exact absurd h.2.1 (by decide)
  · rw [(hgood.2 rpn hrpn).2.2 .not]
    decide

end Rpn

end Propositional

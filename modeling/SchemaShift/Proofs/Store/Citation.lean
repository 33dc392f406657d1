import SchemaShift.Proofs.Store.Shrinking

/-!
# What a definition cites

A clause that counts the keys of its table up has taken a word for that. The text of a sound
definition cites all tokens that its clauses were read from, so this word is in it.
-/

namespace SchemaShift.Store

open Text Reading

/-! ### The word of a counted key -/

namespace Reading

/-- The tokens that are taken have the word among them if the result tells so. -/
def Takes {α : Type} (word : String) (r : Reading α) (tells : α → Bool) : Prop :=
  ∀ ts, Ensures (r ts) fun result =>
    ∃ used, ts = used ++ result.2 ∧ (tells result.1 = true → ∃ t ∈ used, t.isWord word = true)

section Takes

variable {α β : Type} {word : String} {r : Reading α} {f : α → Reading β} {tells : α → Bool}
  {shows : β → Bool}

theorem takes_pure {a : α} (silent : tells a = false) : Takes word (pure a) tells := by
  refine fun ts => ensures_ok ⟨[], rfl, fun told => ?_⟩
  rw [silent] at told
  cases told

theorem takes_accept : Takes word (accept word) fun found => found := by
  intro ts
  cases ts with
  | nil => exact ensures_ok ⟨[], rfl, fun told => by cases told⟩
  | cons t ts =>
    intro result read
    change (take? _ (t :: ts) >>= _) = _ at read
    by_cases here : t.isWord word = true
    · rw [take?, if_pos here] at read
      cases read
      exact ⟨[t], rfl, fun _ => ⟨t, List.mem_singleton_self t, here⟩⟩
    · rw [take?, if_neg here] at read
      cases read
      exact ⟨[], rfl, fun told => by cases told⟩

/-- What the first part told needs not be found again in the second. -/
theorem Takes.bind (first : Takes word r tells)
    (next : ∀ a, Takes word (f a) fun b => shows b && !tells a) : Takes word (r >>= f) shows := by
  intro ts
  refine (first ts).bind fun result ⟨used, whole, earlier⟩ result' read => ?_
  obtain ⟨more, rest, later⟩ := next result.1 result.2 result' read
  refine ⟨used ++ more, by rw [whole, rest, List.append_assoc], fun told => ?_⟩
  rcases Bool.eq_false_or_eq_true (tells result.1) with there | not_there
  · obtain ⟨t, member, is⟩ := earlier there
    exact ⟨t, List.mem_append_left more member, is⟩
  · have later := later (Bool.and_eq_true_iff.2 ⟨told, by rw [not_there, Bool.not_false]⟩)
    obtain ⟨t, member, is⟩ := later
    exact ⟨t, List.mem_append_right used member, is⟩

theorem Shrinks.takes (reads : Shrinks r) : Takes word r fun _ => false := by
  intro ts result read
  obtain ⟨used, whole⟩ := reads ts result read
  exact ⟨used, whole.symm, fun told => by cases told⟩

theorem Shrinks.before (first : Shrinks r) (next : ∀ a, Takes word (f a) shows) :
    Takes word (r >>= f) shows := by
  refine first.takes.bind fun a => ?_
  simpa using next a

theorem Takes.either {c : Prop} [Decidable c] {yes no : Reading α} (if_so : Takes word yes tells)
    (otherwise : Takes word no tells) : Takes word (if c then yes else no) tells := by
  split
  · exact if_so
  · exact otherwise

theorem takes_if_accept {other : String} {yes no : Reading α} (if_so : Takes word yes tells)
    (otherwise : Takes word no tells) :
    Takes word (do if ← accept other then yes else no) tells :=
  (shrinks_accept other).before fun _ => if_so.either otherwise

end Takes

end Reading

/-- The clause is that of a primary key whose values are counted up. -/
def Clause.isCounting : Clause → Bool
  | .columnKey _ _ counting => counting
  | .key _ _ counting => counting
  | _ => false

/-- The reading of a clause. -/
abbrev TakesKeyword (r : Reading Clause) : Prop :=
  Takes "AUTOINCREMENT" r Clause.isCounting

theorem takes_generatedClause : TakesKeyword generatedClause :=
  (shrinks_expect _).before fun _ => shrinks_enclosedExpression.before fun _ =>
    (shrinks_take? _).before fun _ => takes_pure rfl

theorem takes_defaultClause : TakesKeyword defaultClause := by
  unfold defaultClause
  refine (shrinks_nextIs _).before fun _ => .either (Shrinks.before ?_ fun _ => takes_pure rfl)
    (Shrinks.before ?_ fun _ => takes_pure rfl)
  · exact Shrinks.cited (shrinks_skip.bind fun _ => shrinks_enclosedExpression)
  · refine Shrinks.cited ((shrinks_oneOf? _).bind fun _ => .either shrinks_literal ?_)
    refine (shrinks_take? _).bind fun found => ?_
    cases found with
    | some word => exact shrinks_pure _
    | none => exact shrinks_literal

theorem takes_columnClause : TakesKeyword columnClause := by
  have idle {α : Type} {r : Reading α} (reads : Shrinks r) :
      TakesKeyword (r >>= fun _ => pure .idle) :=
    reads.before fun _ => takes_pure rfl
  unfold columnClause
  refine takes_if_accept (idle shrinks_name) (takes_if_accept takes_defaultClause ?_)
  refine takes_if_accept (idle shrinks_conflict) (takes_if_accept ?not (takes_if_accept ?key ?_))
  case not =>
    refine takes_if_accept (idle shrinks_deferral) ((shrinks_expect _).before fun _ => ?_)
    exact shrinks_conflict.before fun _ => takes_pure rfl
  case key =>
    refine (shrinks_expect _).before fun _ => shrinks_sortOrder.before fun descending => ?_
    refine shrinks_conflict.before fun onConflict => takes_accept.bind fun counting => ?_
    exact takes_pure (Bool.and_not_self counting)
  refine takes_if_accept (shrinks_conflict.before fun _ => takes_pure rfl) ?_
  refine takes_if_accept ?check (takes_if_accept ?reference ?_)
  case check =>
    exact (shrinks_expect _).before fun _ => shrinks_enclosedExpression.before fun _ =>
      takes_pure rfl
  case reference => exact shrinks_foreignTarget.before fun _ => takes_pure rfl
  refine takes_if_accept (idle shrinks_deferral) ?_
  refine takes_if_accept (shrinks_collationName.before fun _ => takes_pure rfl) ?_
  exact takes_if_accept
    ((shrinks_expect _).before fun _ => (shrinks_expect _).before fun _ => takes_generatedClause)
    ((shrinks_expect _).before fun _ => takes_generatedClause)

theorem takes_column : TakesKeyword column :=
  shrinks_name.before fun _ => shrinks_type.before fun _ => takes_pure rfl

theorem takes_tableClause : TakesKeyword tableClause := by
  unfold tableClause
  refine takes_if_accept (shrinks_name.before fun _ => takes_pure rfl) ?_
  refine takes_if_accept ?primary (takes_if_accept ?unique (takes_if_accept ?check ?foreign))
  case primary =>
    refine (shrinks_expect _).before fun _ => (shrinks_expect _).before fun _ => ?_
    refine shrinks_remaining.before fun most => (shrinks_members most).before fun members => ?_
    refine takes_accept.bind fun counting => (shrinks_expect _).before fun _ => ?_
    exact shrinks_conflict.before fun _ => takes_pure (Bool.and_not_self counting)
  case unique =>
    refine (shrinks_expect _).before fun _ => shrinks_remaining.before fun most => ?_
    refine (shrinks_members most).before fun members => (shrinks_expect _).before fun _ => ?_
    exact shrinks_conflict.before fun _ => takes_pure rfl
  case check =>
    exact (shrinks_expect _).before fun _ => shrinks_enclosedExpression.before fun _ =>
      shrinks_conflict.before fun _ => takes_pure rfl
  case foreign =>
    refine (shrinks_expect _).before fun _ => (shrinks_expect _).before fun _ => ?_
    refine shrinks_columnNames.before fun columns => (shrinks_expect _).before fun _ => ?_
    refine shrinks_foreignTarget.before fun ⟨_, count⟩ => (shrinks_accept _).before fun _ => ?_
    have deferred : TakesKeyword (do
        deferral
        return .foreignKey columns count) :=
      shrinks_deferral.before fun _ => takes_pure rfl
    refine .either ((shrinks_expect _).before fun _ => deferred) ?_
    exact (shrinks_accept _).before fun _ => .either (takes_pure rfl) deferred

/-! ### Definitions -/

/-- The same for a reading that also tells what may come next. -/
abbrev TakesNext (r : Reading (Option (Clause × Stage))) : Prop :=
  Takes "AUTOINCREMENT" r fun next => next.any fun c => c.1.isCounting

theorem TakesKeyword.before {r : Reading Clause} (takes : TakesKeyword r) (stage : Stage) :
    TakesNext (do return some (← r, stage)) :=
  takes.bind fun c => takes_pure (Bool.and_not_self c.isCounting)

theorem takes_nextClause (stage : Stage) : TakesNext (nextClause stage) := by
  cases stage with
  | start => exact takes_column.before _
  | inColumn =>
    exact takes_if_accept (takes_pure rfl)
      (takes_if_accept (takes_pure rfl) (takes_columnClause.before _))
  | afterComma =>
    exact (shrinks_nextIs _).before fun _ =>
      .either (takes_tableClause.before _) (takes_column.before _)
  | inTable =>
    exact takes_if_accept (takes_pure rfl)
      (takes_if_accept (takes_pure rfl) (takes_tableClause.before _))
  | afterTableComma => exact takes_tableClause.before _

theorem takes_nextColumnClause (stage : Stage) : TakesNext (nextColumnClause stage) := by
  have later : TakesNext (do
      if ← atEnd then return none
      else return some (← columnClause, Stage.inColumn)) :=
    shrinks_atEnd.before fun _ => .either (takes_pure rfl) (takes_columnClause.before _)
  cases stage with
  | start => exact takes_column.before _
  | _ => exact later

/-- The tokens before the rest have the keyword among them if one of the clauses counts. -/
def Gathered (ts : List Token) (clauses : List Clause) (rest : List Token) : Prop :=
  ∃ used, ts = used ++ rest ∧
    (clauses.any Clause.isCounting = true → ∃ t ∈ used, t.isWord "AUTOINCREMENT" = true)

theorem Gathered.of_suffix {ts rest last : List Token} {clauses : List Clause}
    (gathered : Gathered ts clauses rest) (left : last <:+ rest) : Gathered ts clauses last := by
  obtain ⟨used, rfl, told⟩ := gathered
  obtain ⟨more, rfl⟩ := left
  refine ⟨used ++ more, (List.append_assoc used more last).symm, fun counting => ?_⟩
  obtain ⟨t, member, is⟩ := told counting
  exact ⟨t, List.mem_append_left more member, is⟩

theorem gather_gathered {next : Stage → Reading (Option (Clause × Stage))}
    (takes : ∀ stage, TakesNext (next stage)) (fuel : Nat) (stage : Stage) (ts : List Token) :
    Ensures (gather next fuel stage ts).2 (Gathered ts (gather next fuel stage ts).1) := by
  induction fuel generalizing stage ts with
  | zero => exact ensures_error
  | succ fuel ih =>
    rw [gather]
    split
    · exact ensures_error
    · rename_i after read
      obtain ⟨used, whole, -⟩ := takes stage ts _ read
      exact ensures_ok ⟨used, whole, fun told => by cases told⟩
    · rename_i c stage' after read
      obtain ⟨used, whole, mine⟩ := takes stage ts _ read
      intro rest ends
      obtain ⟨more, others, theirs⟩ := ih stage' after rest ends
      refine ⟨used ++ more, by rw [whole, others, List.append_assoc], fun told => ?_⟩
      -- The clause may have been left out again, but then none is told by it.
      have either : c.isCounting = true ∨
          (gather next fuel stage' after).1.any Clause.isCounting = true := by
        dsimp only at told
        split at told
        · exact .inr told
        · simpa using told
      rcases either with counting | counting
      · obtain ⟨t, member, is⟩ := mine counting
        exact ⟨t, List.mem_append_left more member, is⟩
      · obtain ⟨t, member, is⟩ := theirs counting
        exact ⟨t, List.mem_append_right used member, is⟩

/-- One of the clauses makes the table count its keys up. -/
def Definition.counts (d : Definition) : Bool :=
  d.clauses.any Clause.isCounting

/-- The text of a sound definition cites tokens that stand next to each other among these, and the
keyword is one of them if the definition counts. -/
def Definition.Cites (d : Definition) (ts : List Token) : Prop :=
  d.fault = none → ∃ run, run <:+: ts ∧ d.text = Token.cite run ∧
    (d.counts = true → ∃ t ∈ run, t.isWord "AUTOINCREMENT" = true)

theorem Definition.Cites.of_infix {d : Definition} {ts all : List Token} (cites : d.Cites ts)
    (part : ts <:+: all) : d.Cites all := by
  intro sound
  obtain ⟨run, within, text, told⟩ := cites sound
  exact ⟨run, within.trans part, text, told⟩

theorem take_taken (used rest : List Token) :
    (used ++ rest).take ((used ++ rest).length - rest.length) = used := by
  rw [List.length_append, Nat.add_sub_cancel, List.take_left]

theorem addedColumn_cites (ts : List Token) :
    Ensures (addedColumn ts) fun result => result.1.Cites ts := by
  have gathered := gather_gathered takes_nextColumnClause (ts.length + 1) .start ts
  unfold addedColumn
  generalize gather nextColumnClause (ts.length + 1) .start ts = found at gathered ⊢
  obtain ⟨clauses, result⟩ := found
  dsimp only
  split
  · rename_i rest settled
    have ended : Gathered ts clauses rest := by
      refine gathered.bind (Q := Gathered ts clauses) (fun rest found => ?_) rest settled
      exact ensures_bind fun _ => ensures_ok found
    obtain ⟨used, rfl, told⟩ := ended
    rw [take_taken]
    exact ensures_ok fun _ => ⟨used, (List.prefix_append used rest).isInfix, rfl, told⟩
  · exact ensures_ok fun sound => by cases sound

theorem take_front (test : Token → Bool) (ts : List Token) :
    Ensures (take test ts) fun result => ts = result.1 :: result.2 := by
  cases ts with
  | nil => exact ensures_error
  | cons t ts => exact .either (ensures_ok rfl) ensures_error

theorem tableDefinition_cites (name : Token) (ts : List Token) :
    Ensures (tableDefinition name ts) fun result => result.1.Cites (name :: ts) := by
  unfold tableDefinition
  refine (take_front _ ts).bind fun ⟨opening, ts'⟩ front => ?_
  subst front
  have gathered := gather_gathered takes_nextClause (ts'.length + 1) .start ts'
  dsimp only
  generalize gather nextClause (ts'.length + 1) .start ts' = found at gathered ⊢
  obtain ⟨clauses, result⟩ := found
  split
  · rename_i options rest settled
    have ended : Gathered ts' clauses rest := by
      refine gathered.bind (Q := fun last => Gathered ts' clauses last.2) (fun rest found => ?_)
        (options, rest) settled
      refine (shrinks_tableOptions rest).bind fun settled left => ensures_bind fun _ => ?_
      exact ensures_ok (found.of_suffix left)
    obtain ⟨used, rfl, told⟩ := ended
    rw [take_taken]
    refine ensures_ok fun _ => ⟨name :: opening :: used, ?_, rfl, fun counting => ?_⟩
    · exact (List.prefix_append (name :: opening :: used) rest).isInfix
    · obtain ⟨t, member, is⟩ := told counting
      exact ⟨t, List.mem_cons_of_mem name (List.mem_cons_of_mem opening member), is⟩
  · exact ensures_ok fun sound => by cases sound

/-! ### Commands -/

/-- What a command defines cites these tokens. -/
def Command.Cites (ts : List Token) : Command → Prop
  | .createTable _ _ definition => definition.Cites ts
  | .addColumn _ definition => definition.Cites ts
  | _ => True

theorem Command.Cites.of_suffix {c : Command} {ts all : List Token} (cites : c.Cites ts)
    (left : ts <:+ all) : c.Cites all := by
  cases c with
  | createTable target unlessThere definition => exact Definition.Cites.of_infix cites left.isInfix
  | addColumn target definition => exact Definition.Cites.of_infix cites left.isInfix
  | _ => exact trivial

/-- The command that is read defines nothing but what its tokens say. -/
def ReadsCites (r : Reading Command) : Prop :=
  ∀ ts, Ensures (r ts) fun result => result.1.Cites ts

section ReadsCites

variable {α : Type} {r : Reading α} {f : α → Reading Command}

theorem Reading.Shrinks.reads (first : Shrinks r) (next : ∀ a, ReadsCites (f a)) :
    ReadsCites (r >>= f) :=
  fun ts => (first ts).bind fun result left found read =>
    (next result.1 result.2 found read).of_suffix left

theorem readsCites_if_accept {word : String} {yes no : Reading Command} (if_so : ReadsCites yes)
    (otherwise : ReadsCites no) : ReadsCites (do if ← accept word then yes else no) := by
  refine (shrinks_accept word).reads fun accepted => ?_
  split
  · exact if_so
  · exact otherwise

theorem readsCites_pure {c : Command} (defines : ∀ ts, c.Cites ts) : ReadsCites (pure c) :=
  fun ts => ensures_ok (defines ts)

end ReadsCites

theorem shrinks_condition (negated : Bool) : Shrinks (condition negated) := by
  have ends : Shrinks (do
      expect "EXISTS"
      return true) :=
    (shrinks_expect _).bind fun _ => shrinks_pure true
  refine shrinks_if_accept (.either ?_ ends) (shrinks_pure false)
  exact (shrinks_expect _).bind fun _ => ends

theorem accept_front (word : String) (ts : List Token) :
    Ensures (accept word ts) fun result =>
      result = (false, ts) ∨ ∃ t, result.1 = true ∧ ts = t :: result.2 := by
  cases ts with
  | nil => exact ensures_ok (.inl rfl)
  | cons t ts =>
    change Ensures (take? _ (t :: ts) >>= _) _
    rw [take?]
    split
    · exact ensures_ok (.inr ⟨t, rfl, rfl⟩)
    · exact ensures_ok (.inl rfl)

/-- The name is the last token that a target takes. -/
theorem target_name (ts : List Token) :
    Ensures (target ts) fun result => result.1.name :: result.2 <:+ ts := by
  unfold target
  refine (take_front _ ts).bind fun ⟨first, ts'⟩ front => ?_
  subst front
  refine (accept_front "." ts').bind fun ⟨dotted, ts''⟩ accepted => ?_
  rcases accepted with plain | ⟨dot, met, whole⟩
  · cases plain
    exact ensures_ok (List.suffix_refl (first :: ts'))
  · cases met
    cases whole
    refine (take_front _ ts'').bind fun ⟨second, rest⟩ named => ?_
    cases named
    exact ensures_ok ((List.suffix_cons dot _).trans (List.suffix_cons first _))

theorem shrinks_target : Shrinks target := by
  intro ts result read
  exact (List.suffix_cons _ _).trans (target_name ts result read)

theorem tableCreation_cites : ReadsCites tableCreation := by
  refine (shrinks_condition true).reads fun unlessThere ts => ?_
  refine (target_name ts).bind fun ⟨target, ts'⟩ named => ?_
  refine (tableDefinition_cites target.name ts').bind fun ⟨definition, rest⟩ cites => ?_
  exact ensures_ok (cites.of_infix named.isInfix)

theorem columnAddition_cites : ReadsCites columnAddition := by
  refine shrinks_target.reads fun target => (shrinks_expect _).reads fun _ => ?_
  refine (shrinks_accept _).reads fun _ ts => ?_
  exact (addedColumn_cites ts).bind fun ⟨definition, rest⟩ cites => ensures_ok cites

theorem indexCreation_cites (unique : Bool) : ReadsCites (indexCreation unique) := by
  have made (condition : Option Expr) (target : Target) (unlessThere : Bool) (table : Token)
      (members : List Member) : ReadsCites (do
        finish
        return .createIndex unique target unlessThere table.content members condition) :=
    shrinks_finish.reads fun _ => readsCites_pure fun _ => trivial
  unfold indexCreation
  refine (shrinks_condition true).reads fun unlessThere => shrinks_target.reads fun target => ?_
  refine (shrinks_expect _).reads fun _ => shrinks_name.reads fun table => ?_
  refine (shrinks_expect _).reads fun _ => shrinks_remaining.reads fun most => ?_
  refine (shrinks_members most).reads fun members => (shrinks_expect _).reads fun _ => ?_
  refine readsCites_if_accept (shrinks_wholeExpression.reads fun e => ?_) ?_
  · exact (shrinks_pure _).reads fun condition => made condition target unlessThere table members
  · exact (shrinks_pure _).reads fun condition => made condition target unlessThere table members

theorem command_cites : ReadsCites command := by
  have finished {c : Command} (defines : ∀ ts, c.Cites ts) : ReadsCites (do
      finish
      return c) :=
    shrinks_finish.reads fun _ => readsCites_pure defines
  unfold command
  refine readsCites_if_accept (readsCites_if_accept tableCreation_cites ?_)
    (readsCites_if_accept (readsCites_if_accept ?dropTable ?dropIndex) ?_)
  · exact readsCites_if_accept ((shrinks_expect _).reads fun _ => indexCreation_cites true)
      ((shrinks_expect _).reads fun _ => indexCreation_cites false)
  case dropTable =>
    exact (shrinks_condition false).reads fun _ => shrinks_target.reads fun _ =>
      finished fun _ => trivial
  case dropIndex =>
    exact (shrinks_expect _).reads fun _ => (shrinks_condition false).reads fun _ =>
      shrinks_target.reads fun _ => finished fun _ => trivial
  · exact (shrinks_expect _).reads fun _ => (shrinks_expect _).reads fun _ => columnAddition_cites

theorem ofTokens_cites (ts : List Token) :
    Ensures (Command.ofTokens ts) (Command.Cites ts) := by
  have read := command_cites ts
  unfold Command.ofTokens
  cases result : command ts with
  | error e => exact ensures_error
  | ok found => exact ensures_ok (read found result)

end SchemaShift.Store

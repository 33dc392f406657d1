import SchemaShift.Proofs.Store.Indexes

/-!
# What a reading leaves

A reading takes tokens off the front of a statement and puts none back, so what it leaves is the
end of what it got. This holds of every reading, and for expressions, which are read by several
functions in turns, it is shown of all of them at once.
-/

namespace SchemaShift.Store

open Text Reading

namespace Reading

/-- What is left is the end of what there was. -/
def Shrinks {α : Type} (r : Reading α) : Prop :=
  ∀ ts, Ensures (r ts) fun result => result.2 <:+ ts

section Shrinks

variable {α β : Type} {r : Reading α} {f : α → Reading β}

theorem shrinks_pure (a : α) : Shrinks (pure a) :=
  fun ts => ensures_ok (List.suffix_refl ts)

theorem shrinks_stop : Shrinks (stop : Reading α) :=
  fun _ => ensures_error

theorem shrinks_throw (e : StoreError) : Shrinks (throw e : Reading α) :=
  fun _ => ensures_error

theorem Shrinks.bind (first : Shrinks r) (next : ∀ a, Shrinks (f a)) : Shrinks (r >>= f) := by
  intro ts
  refine (first ts).bind fun result left result' read => ?_
  exact (next result.1 result.2 result' read).trans left

theorem Shrinks.either {c : Prop} [Decidable c] {yes no : Reading α} (if_so : Shrinks yes)
    (otherwise : Shrinks no) : Shrinks (if c then yes else no) := by
  split
  · exact if_so
  · exact otherwise

/-! ### Single tokens -/

theorem shrinks_nextIs (words : List String) : Shrinks (nextIs words) := by
  intro ts
  cases ts with
  | nil => exact ensures_ok (List.suffix_refl [])
  | cons t ts => exact ensures_ok (List.suffix_refl (t :: ts))

theorem shrinks_nextAre (words : List String) : Shrinks (nextAre words) := by
  intro ts
  induction words generalizing ts with
  | nil => exact ensures_ok (List.suffix_refl ts)
  | cons word words ih =>
    cases ts with
    | nil => exact ensures_ok (List.suffix_refl [])
    | cons t ts =>
      rw [nextAre]
      refine .either ?_ (ensures_ok (List.suffix_refl (t :: ts)))
      cases nextAre words ts with
      | error e => exact ensures_error
      | ok found => exact ensures_ok (List.suffix_refl (t :: ts))

theorem shrinks_skip : Shrinks skip :=
  fun ts => ensures_ok (List.drop_suffix 1 ts)

theorem shrinks_remaining : Shrinks remaining :=
  fun ts => ensures_ok (List.suffix_refl ts)

theorem shrinks_take? (test : Token → Bool) : Shrinks (take? test) := by
  intro ts
  cases ts with
  | nil => exact ensures_ok (List.suffix_refl [])
  | cons t ts =>
    exact .either (ensures_ok (List.suffix_cons t ts)) (ensures_ok (List.suffix_refl (t :: ts)))

theorem shrinks_take (test : Token → Bool) : Shrinks (take test) := by
  intro ts
  cases ts with
  | nil => exact ensures_error
  | cons t ts => exact .either (ensures_ok (List.suffix_cons t ts)) ensures_error

theorem shrinks_accept (word : String) : Shrinks (accept word) :=
  (shrinks_take? _).bind fun _ => shrinks_pure _

theorem shrinks_expect (word : String) : Shrinks (expect word) :=
  (shrinks_take _).bind fun _ => shrinks_pure _

theorem shrinks_oneOf? (words : List String) : Shrinks (oneOf? words) := by
  refine (shrinks_take? _).bind fun found => ?_
  cases found with
  | none => exact shrinks_pure none
  | some t => exact shrinks_pure _

theorem shrinks_oneOf (words : List String) : Shrinks (oneOf words) := by
  refine (shrinks_oneOf? words).bind fun found => ?_
  cases found with
  | none => exact shrinks_stop
  | some word => exact shrinks_pure word

theorem shrinks_name : Shrinks name :=
  shrinks_take _

/-- A word that is accepted or not, before one of two readings. -/
theorem shrinks_if_accept {word : String} {yes no : Reading α} (if_so : Shrinks yes)
    (otherwise : Shrinks no) : Shrinks (do if ← accept word then yes else no) :=
  (shrinks_accept word).bind fun _ => if_so.either otherwise

/-! ### Runs of tokens -/

theorem Shrinks.commaList (item : Shrinks r) (fuel : Nat) : Shrinks (commaList r fuel) := by
  induction fuel with
  | zero => exact shrinks_stop
  | succ fuel ih =>
    refine item.bind fun a => shrinks_if_accept ?_ (shrinks_pure [a])
    exact ih.bind fun rest => shrinks_pure (a :: rest)

theorem Shrinks.cited (reads : Shrinks r) : Shrinks (cited r) := by
  intro ts
  have taken := reads ts
  unfold Reading.cited
  split
  · rename_i a rest read
    exact ensures_ok (taken _ read)
  · exact ensures_error

theorem shrinks_skipClosing (depth : Nat) : Shrinks (skipClosing depth) := by
  intro ts
  induction ts generalizing depth with
  | nil => exact ensures_error
  | cons t ts ih =>
    have later (depth : Nat) : Ensures (skipClosing depth ts) fun result => result.2 <:+ t :: ts :=
      fun result read => (ih depth result read).trans (List.suffix_cons t ts)
    unfold skipClosing
    refine .either ensures_error (.either (later _) (.either ?_ (later _)))
    cases depth with
    | zero => exact ensures_ok (List.suffix_cons t ts)
    | succ depth => exact later depth

theorem shrinks_signedNumber : Shrinks signedNumber :=
  (shrinks_oneOf? _).bind fun _ => (shrinks_take _).bind fun _ => shrinks_pure _

theorem shrinks_typeWords (fuel : Nat) : Shrinks (typeWords fuel) := by
  induction fuel with
  | zero => exact shrinks_pure 0
  | succ fuel ih =>
    refine (shrinks_take? _).bind fun found => ?_
    cases found with
    | none => exact shrinks_pure 0
    | some t => exact ih.bind fun _ => shrinks_pure _

theorem shrinks_type : Shrinks type := by
  refine Shrinks.bind (Shrinks.cited ?_) fun _ => shrinks_pure _
  refine shrinks_remaining.bind fun most => (shrinks_typeWords most).bind fun words => ?_
  refine .either (shrinks_if_accept (shrinks_signedNumber.bind fun _ => ?_) ?_) ?_
  · exact shrinks_if_accept (shrinks_signedNumber.bind fun _ => shrinks_expect ")")
      (shrinks_expect ")")
  · exact shrinks_pure ()
  · exact shrinks_pure ()

end Shrinks

end Reading

/-! ### Expressions -/

theorem shrinks_checkGrouping (t : Token) : Shrinks (checkGrouping t) := by
  intro ts
  unfold checkGrouping
  dsimp only
  split
  · exact ensures_error
  · exact ensures_ok (List.suffix_refl ts)

theorem shrinks_binaryOperator (level : Nat) : Shrinks (binaryOperator level) :=
  (shrinks_take? _).bind fun _ => shrinks_pure _

/-- Every part of an expression that is read with this fuel shrinks what there is. -/
structure ExpressionsShrink (fuel : Nat) : Prop where
  expression (level : Nat) : Shrinks (expression fuel level)
  operators (level : Nat) (e : Expr) : Shrinks (operators fuel level e)
  comparison (level : Nat) (e : Expr) : Shrinks (comparison fuel level e)
  membership (e : Expr) : Shrinks (membership fuel e)
  call (function : String) : Shrinks (call fuel function)
  reach : Shrinks (reach fuel)
  branches : Shrinks (branches fuel)
  special : Shrinks (special fuel)
  operand : Shrinks (operand fuel)

section ExpressionsShrink

variable {fuel : Nat} (ih : ExpressionsShrink fuel)

include ih

theorem shrinks_expressions : Shrinks (commaList (expression fuel 0) fuel) :=
  (ih.expression 0).commaList fuel

theorem shrinks_operators (level : Nat) (e : Expr) : Shrinks (operators (fuel + 1) level e) := by
  unfold operators
  refine (shrinks_binaryOperator level).bind fun found => ?_
  cases found with
  | some found =>
    exact (ih.expression _).bind fun f => ih.operators level _
  | none =>
    -- The reading goes on in the same way whether a collation is looked for or not.
    extract_lets goOn
    have goesOn (collated : Bool) : Shrinks (goOn collated) := by
      refine .either ((shrinks_take _).bind fun collation => ih.operators level _) ?_
      refine .either ((ih.comparison level e).bind fun found => ?_) (shrinks_pure e)
      cases found with
      | some found => exact ih.operators level found
      | none => exact shrinks_pure e
    exact .either ((shrinks_accept _).bind goesOn) ((shrinks_pure _).bind goesOn)

theorem shrinks_comparison (level : Nat) (e : Expr) : Shrinks (comparison (fuel + 1) level e) := by
  unfold comparison
  refine (shrinks_oneOf? _).bind fun _ => .either (shrinks_pure _) ?_
  refine shrinks_if_accept ?is ?other
  case is =>
    refine (shrinks_accept _).bind fun _ => (shrinks_accept _).bind fun _ => ?_
    extract_lets goOn
    have goesOn (u : Unit) : Shrinks (goOn u) :=
      (shrinks_nextIs _).bind fun _ => (ih.expression _).bind fun _ => shrinks_pure _
    exact .either ((shrinks_expect _).bind goesOn) (goesOn ())
  case other =>
    extract_lets goOn
    have goesOn (negated : Bool) : Shrinks (goOn negated) := by
      refine (shrinks_take? _).bind fun found => ?_
      cases found with
      | some word =>
        refine (ih.expression _).bind fun f => shrinks_if_accept ?_ (shrinks_pure _)
        exact (ih.expression _).bind fun mark => shrinks_pure _
      | none =>
        refine shrinks_if_accept ?between (shrinks_if_accept ?list (.either ?null ?nothing))
        case between =>
          exact (ih.expression _).bind fun low => (shrinks_expect _).bind fun _ =>
            (ih.expression _).bind fun high => shrinks_pure _
        case list => exact (ih.membership e).bind fun _ => shrinks_pure _
        case null => exact (shrinks_expect _).bind fun _ => shrinks_pure _
        case nothing => exact shrinks_pure none
    exact .either ((shrinks_accept _).bind goesOn) ((shrinks_pure _).bind goesOn)

theorem shrinks_membership (e : Expr) : Shrinks (membership (fuel + 1) e) := by
  unfold membership
  refine shrinks_if_accept ?listed ?named
  case listed =>
    refine (shrinks_nextIs _).bind fun _ => .either ?_ (shrinks_if_accept (shrinks_pure _) ?_)
    · exact (shrinks_skipClosing 0).bind fun _ => shrinks_pure _
    · exact (shrinks_expressions ih).bind fun es => (shrinks_expect _).bind fun _ => shrinks_pure _
  case named =>
    have query : Shrinks (do
        let opens ← accept "("
        if opens then skipClosing 0
        return Expr.query) :=
      shrinks_if_accept ((shrinks_skipClosing 0).bind fun _ => shrinks_pure _) (shrinks_pure _)
    exact shrinks_name.bind fun _ => shrinks_if_accept (shrinks_name.bind fun _ => query) query

theorem shrinks_call (function : String) : Shrinks (call (fuel + 1) function) := by
  unfold call
  refine (shrinks_accept _).bind fun all => ?_
  extract_lets goOn
  have goesOn (es : List Expr) : Shrinks (goOn es) :=
    (shrinks_expect _).bind fun _ => ih.reach.bind fun _ => shrinks_pure _
  refine .either ((shrinks_pure _).bind goesOn) ((shrinks_oneOf? _).bind fun _ => ?_)
  refine (shrinks_nextIs _).bind fun _ => .either ((shrinks_pure _).bind goesOn) ?_
  exact (shrinks_expressions ih).bind goesOn

theorem shrinks_reach : Shrinks (reach (fuel + 1)) := by
  unfold reach
  refine (shrinks_nextAre _).bind fun filtered => ?_
  extract_lets goOn
  have goesOn (u : Unit) : Shrinks (goOn u) := by
    refine (shrinks_nextAre _).bind fun _ => .either ?_ (shrinks_if_accept ?_ (shrinks_pure _))
    · exact shrinks_skip.bind fun _ => shrinks_skip.bind fun _ =>
        (shrinks_skipClosing 0).bind fun _ => shrinks_pure _
    · exact shrinks_name.bind fun _ => shrinks_pure _
  refine .either (shrinks_skip.bind fun _ => shrinks_skip.bind fun _ => ?_) (goesOn ())
  exact (shrinks_expect _).bind fun _ => (ih.expression 0).bind fun _ =>
    (shrinks_expect _).bind goesOn

theorem shrinks_branches : Shrinks (branches (fuel + 1)) := by
  unfold branches
  refine shrinks_if_accept ?next ((shrinks_accept _).bind fun _ => ?last)
  case next =>
    exact (ih.expression 0).bind fun condition => (shrinks_expect _).bind fun _ =>
      (ih.expression 0).bind fun value => ih.branches.bind fun _ => shrinks_pure _
  case last =>
    extract_lets goOn
    have goesOn (last : Expr) : Shrinks (goOn last) :=
      (shrinks_expect _).bind fun _ => shrinks_pure last
    exact .either ((ih.expression 0).bind goesOn) ((shrinks_pure _).bind goesOn)

theorem shrinks_special : Shrinks (special (fuel + 1)) := by
  unfold special
  refine shrinks_if_accept (shrinks_pure _) ((shrinks_take? _).bind fun clock => ?_)
  split
  · exact shrinks_pure _
  · refine shrinks_if_accept ?cast (shrinks_if_accept ?cases ?other)
    case cast =>
      exact (shrinks_expect _).bind fun _ => (ih.expression 0).bind fun e =>
        (shrinks_expect _).bind fun _ => shrinks_type.bind fun _ =>
          (shrinks_expect _).bind fun _ => shrinks_pure _
    case cases =>
      refine (shrinks_nextIs _).bind fun _ => ?_
      extract_lets goOn
      have goesOn (subject : Expr) : Shrinks (goOn subject) :=
        (shrinks_nextIs _).bind fun _ =>
          .either (ih.branches.bind fun _ => shrinks_pure _) shrinks_stop
      exact .either ((shrinks_pure _).bind goesOn) ((ih.expression 0).bind goesOn)
    case other =>
      refine shrinks_if_accept ((shrinks_expect _).bind fun _ => ?_) shrinks_stop
      exact (shrinks_skipClosing 0).bind fun _ => shrinks_pure _

theorem shrinks_operand : Shrinks (operand (fuel + 1)) := by
  have named (t : Token) : Shrinks (do
      if ← accept "." then
        let second ← name
        if ← accept "." then
          let third ← name
          return Expr.path [t.content, second.content, third.content]
        else return .path [t.content, second.content]
      else if t.kind = .literal then return .text t.content
      else if ← accept "(" then call fuel t.content
      else return .ofToken t) := by
    refine shrinks_if_accept ?_ (.either (shrinks_pure _) ?_)
    · exact shrinks_name.bind fun second => shrinks_if_accept
        (shrinks_name.bind fun third => shrinks_pure _) (shrinks_pure _)
    · exact shrinks_if_accept (ih.call t.content) (shrinks_pure _)
  unfold operand
  refine (shrinks_oneOf? _).bind fun _ => .either ?sign (shrinks_if_accept ?negation ?_)
  case sign => exact (ih.expression _).bind fun _ => shrinks_pure _
  case negation => exact (ih.expression _).bind fun _ => shrinks_pure _
  refine shrinks_if_accept ((shrinks_nextIs _).bind fun _ => .either ?query ?enclosed) ?_
  case query => exact (shrinks_skipClosing 0).bind fun _ => shrinks_pure _
  case enclosed =>
    exact (shrinks_expressions ih).bind fun es => (shrinks_expect _).bind fun _ => shrinks_pure _
  refine (shrinks_nextIs _).bind fun _ => .either ih.special ?_
  refine (shrinks_take? _).bind fun found => ?_
  cases found with
  | none => exact ih.special
  | some t =>
    dsimp only
    split
    · exact (shrinks_checkGrouping t).bind fun _ => shrinks_pure _
    · exact shrinks_pure _
    · exact named t
    · exact named t
    · exact named t
    · exact shrinks_pure _

end ExpressionsShrink

theorem expressionsShrink (fuel : Nat) : ExpressionsShrink fuel := by
  induction fuel with
  | zero => constructor <;> intros <;> exact shrinks_stop
  | succ fuel ih =>
    exact {
      expression := fun level => ih.operand.bind fun e => ih.operators level e
      operators := shrinks_operators ih
      comparison := shrinks_comparison ih
      membership := shrinks_membership ih
      call := shrinks_call ih
      reach := shrinks_reach ih
      branches := shrinks_branches ih
      special := shrinks_special ih
      operand := shrinks_operand ih }

theorem shrinks_wholeExpression : Shrinks wholeExpression :=
  shrinks_remaining.bind fun _ => (expressionsShrink _).expression 0

theorem shrinks_enclosedExpression : Shrinks enclosedExpression :=
  shrinks_wholeExpression.bind fun _ => (shrinks_expect _).bind fun _ => shrinks_pure _

/-! ### Parts of clauses -/

theorem shrinks_conflict : Shrinks conflict := by
  refine shrinks_if_accept ((shrinks_expect _).bind fun _ => ?_) (shrinks_pure none)
  refine (shrinks_oneOf _).bind fun word => ?_
  split <;> exact shrinks_pure _

theorem shrinks_sortOrder : Shrinks sortOrder :=
  (shrinks_oneOf? _).bind fun _ => shrinks_pure _

theorem shrinks_member : Shrinks member := by
  refine shrinks_wholeExpression.bind fun e => shrinks_sortOrder.bind fun _ => ?_
  exact shrinks_if_accept ((shrinks_oneOf _).bind fun _ => shrinks_pure _) (shrinks_pure _)

theorem shrinks_members (most : Nat) : Shrinks (commaList member most) :=
  shrinks_member.commaList most

theorem shrinks_collationName : Shrinks collationName :=
  shrinks_take _

theorem shrinks_plainColumn : Shrinks plainColumn := by
  unfold plainColumn
  refine shrinks_name.bind fun column => (shrinks_accept _).bind fun collated => ?_
  extract_lets goOn
  have goesOn (u : Unit) : Shrinks (goOn u) :=
    (shrinks_oneOf? _).bind fun _ => .either (shrinks_throw _) (shrinks_pure _)
  exact .either (shrinks_collationName.bind fun _ => goesOn ()) (goesOn ())

theorem shrinks_columnNames : Shrinks columnNames := by
  refine (shrinks_expect _).bind fun _ => shrinks_remaining.bind fun most => ?_
  exact (shrinks_plainColumn.commaList most).bind fun _ =>
    (shrinks_expect _).bind fun _ => shrinks_pure _

theorem shrinks_foreignOptions (fuel : Nat) : Shrinks (foreignOptions fuel) := by
  induction fuel with
  | zero => exact shrinks_pure ()
  | succ fuel ih =>
    refine shrinks_if_accept (shrinks_name.bind fun _ => ih) ?_
    refine shrinks_if_accept ((shrinks_oneOf _).bind fun _ => ?_) (shrinks_pure ())
    refine (shrinks_oneOf _).bind fun word => ?_
    split
    · exact (shrinks_oneOf _).bind fun _ => ih
    · exact (shrinks_expect _).bind fun _ => ih
    · exact ih

theorem shrinks_foreignTarget : Shrinks foreignTarget := by
  unfold foreignTarget
  refine shrinks_name.bind fun table => (shrinks_nextIs _).bind fun listed => ?_
  extract_lets goOn
  have goesOn (count : Option Nat) : Shrinks (goOn count) :=
    shrinks_remaining.bind fun most => (shrinks_foreignOptions most).bind fun _ => shrinks_pure _
  refine .either ?_ ((shrinks_pure none).bind goesOn)
  exact shrinks_columnNames.bind fun names => (shrinks_pure _).bind goesOn

theorem shrinks_deferral : Shrinks deferral :=
  shrinks_if_accept ((shrinks_oneOf _).bind fun _ => shrinks_pure ()) (shrinks_pure ())

theorem shrinks_literal : Shrinks defaultClause.literal := by
  unfold defaultClause.literal
  refine shrinks_if_accept (shrinks_pure _) ((shrinks_oneOf? _).bind fun _ => ?_)
  refine .either (shrinks_pure _) ((shrinks_take _).bind fun t => ?_)
  exact .either ((shrinks_checkGrouping t).bind fun _ => shrinks_pure _) (shrinks_pure _)

theorem shrinks_atEnd : Shrinks atEnd :=
  shrinks_remaining.bind fun _ => (shrinks_nextIs _).bind fun _ => shrinks_pure _

theorem shrinks_tableOption : Shrinks tableOption := by
  unfold tableOption
  refine (shrinks_accept _).bind fun without => shrinks_name.bind fun word => ?_
  refine .either (shrinks_pure _) (.either (shrinks_pure _) ?_)
  refine shrinks_atEnd.bind fun _ => (shrinks_nextIs _).bind fun _ => ?_
  exact .either (shrinks_throw _) shrinks_stop

theorem shrinks_tableOptions : Shrinks tableOptions := by
  refine shrinks_atEnd.bind fun _ => .either (shrinks_pure []) ?_
  refine (shrinks_accept _).bind fun _ => shrinks_remaining.bind fun most => ?_
  exact shrinks_tableOption.commaList most

theorem shrinks_finish : Shrinks finish :=
  (shrinks_accept _).bind fun _ => shrinks_remaining.bind fun _ =>
    .either shrinks_stop (shrinks_pure ())

end SchemaShift.Store

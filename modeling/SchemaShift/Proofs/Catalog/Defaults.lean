import Mathlib.Data.List.Forall2
import SchemaShift.Ddl.Sqlite
import SchemaShift.Proofs.Catalog.KeyRoles
import SchemaShift.Proofs.Ddl.QuotedText

/-!
# Default expressions of a catalog

A catalog gives a default as the text of an expression. Introspection takes the quotes off a string
literal and leaves any other text as it is. A statement writes the result back, as it stands or as a
string literal, and has nothing but the text to tell by. `defaults_kept_iff` says which texts come
through as the expressions they are. `default_readsBack_iff` looks at the other way: which defaults
of a column are found again in what is written for them.
-/

namespace SchemaShift

open Text Store

/-! ### Letter case, blanks and quotes -/

namespace Text

theorem toLower_toUpper (c : Char) : c.toUpper.toLower = c.toLower := by
  have letters : ∀ place : Fin 26, (Char.ofNat (97 + place)).toUpper.toLower =
      (Char.ofNat (97 + place)).toLower := by decide
  by_cases small : 97 ≤ c.toNat ∧ c.toNat ≤ 122
  · have same := letters ⟨c.toNat - 97, by omega⟩
    rwa [Nat.add_sub_cancel' small.1, Char.ofNat_toNat] at same
  · have kept : c.toUpper = c := dif_neg small
    rw [kept]

theorem lower_upper (s : String) : lower (upper s) = lower s := by
  rw [lower, toList_upper, List.map_map, lower]
  exact congrArg String.ofList (List.map_congr_left fun c _ => toLower_toUpper c)

theorem startsWith_iff (s phrase : String) :
    startsWith s phrase = true ↔ phrase.toList <+: s.toList :=
  List.isPrefixOf_iff_prefix

theorem length_strip_le (cs : List Char) : (strip cs).length ≤ cs.length := by
  have last := (List.dropWhile_sublist (l := (stripStart cs).reverse) isBlank).length_le
  have first := (List.dropWhile_sublist (l := cs) isBlank).length_le
  rw [List.length_reverse] at last
  rw [strip, stripEnd, List.length_reverse]
  exact Nat.le_trans last first

theorem length_undouble_le (q : Char) (cs : List Char) :
    (undouble q cs).length ≤ cs.length := by
  fun_induction undouble q cs with
  | case1 => exact Nat.le_refl _
  | case2 c => exact Nat.le_refl _
  | case3 c d cs _ ih =>
    simp only [List.length_cons]
    omega
  | case4 c d cs _ ih => exact Nat.succ_le_succ ih

end Text

/-! ### Literals and expressions -/

/-- The text is one string literal and nothing else. -/
def IsLiteral (text : String) : Prop :=
  (readQuoted '\'' text.toList).map (·.2) = some []

instance (text : String) : Decidable (IsLiteral text) :=
  inferInstanceAs (Decidable (_ = _))

theorem isLiteral_quoteLiteral (value : String) : IsLiteral (quoteLiteral value) := by
  have read := (readQuoted_quote '\'' value []).2 (by simp)
  rw [List.append_nil] at read
  rw [IsLiteral, quoteLiteral, read]
  rfl

theorem quoted_of_isLiteral {text : String} (literal : IsLiteral text) :
    ∃ cs, text.toList = '\'' :: cs := by
  unfold IsLiteral at literal
  cases written : text.toList with
  | nil =>
    rw [written] at literal
    cases literal
  | cons c cs =>
    by_cases quote : c = '\''
    · exact ⟨cs, by rw [quote]⟩
    · rw [written, readQuoted, if_neg quote] at literal
      cases literal

/-- The text begins like an expression, and there are no blanks around it. -/
def OpensAsExpression (text : String) : Prop :=
  trim text = text ∧ ∃ opening ∈ expressionOpenings, startsWith (upper text) opening = true

instance (text : String) : Decidable (OpensAsExpression text) :=
  inferInstanceAs (Decidable (_ ∧ _))

theorem not_startsWith_of_quoted {text : String} {cs : List Char}
    (quoted : text.toList = '\'' :: cs) :
    ∀ opening ∈ expressionOpenings, ¬startsWith (upper text) opening = true := by
  intro opening member starts
  rw [startsWith_iff, toList_upper, quoted, List.map_cons] at starts
  have other (cs : List Char) :
      ∀ opening ∈ expressionOpenings, ¬opening.toList <+: '\'' :: cs := by
    simp [expressionOpenings]
  exact other _ opening member starts

theorem not_opening_of_quoted {text : String} {cs : List Char}
    (quoted : text.toList = '\'' :: cs) : ¬OpensAsExpression text := by
  rintro ⟨-, opening, member, starts⟩
  exact not_startsWith_of_quoted quoted opening member starts

theorem not_null_of_quoted {text : String} {cs : List Char} (quoted : text.toList = '\'' :: cs) :
    sameLetters text "NULL" = false := by
  rw [sameLetters, beq_eq_false_iff_ne]
  intro same
  have letters := congrArg String.toList same
  rw [toList_lower, quoted, List.map_cons] at letters
  cases (List.cons.inj letters).1

theorem not_opening_of_null {text : String} (null : sameLetters text "NULL" = true) :
    ¬OpensAsExpression text := by
  rintro ⟨-, opening, member, starts⟩
  have other : ∀ opening ∈ expressionOpenings,
      ¬(lower opening).toList <+: (lower "NULL").toList := by decide
  apply other opening member
  rw [← beq_iff_eq.1 null, ← lower_upper text, toList_lower, toList_lower]
  exact ((startsWith_iff _ _).1 starts).map Char.toLower

theorem upper_ne_null {text : String} (notNull : sameLetters text "NULL" = false) :
    upper text ≠ "NULL" := by
  intro same
  rw [sameLetters, ← lower_upper, same] at notNull
  cases notNull

theorem isExpressionDefault_iff {text : String} (trimmed : trim text = text)
    (expression : sameLetters text "NULL" = false) :
    isExpressionDefault text = true ↔ OpensAsExpression text := by
  unfold isExpressionDefault OpensAsExpression
  simp [trimmed, upper_ne_null expression]

theorem isExpressionDefault_of_quoted {value : String} {cs : List Char}
    (quoted : (trim value).toList = '\'' :: cs) : isExpressionDefault value = false := by
  have named := upper_ne_null (not_null_of_quoted quoted)
  unfold isExpressionDefault
  simpa [named] using not_startsWith_of_quoted quoted

/-! ### The default clause -/

namespace Sqlite

/-- The definition of the column ends in a default clause with the text. -/
def WritesDefault (c : Column) (written : String) : Prop :=
  columnDefinition c =
    columnDefinition { c with defaultValue := none } ++ (" DEFAULT " ++ written)

theorem writesDefault_iff {c : Column} {written : String} :
    WritesDefault c written ↔
      ∃ value, c.defaultValue = some value ∧ written = defaultText quoteLiteral value := by
  unfold WritesDefault columnDefinition
  dsimp only
  cases c.defaultValue with
  | none =>
    refine iff_of_false (fun same => ?_) (by simp)
    have length := congrArg String.length same
    simp only [String.length_append, String.append_empty] at length
    have clause : " DEFAULT ".length = 9 := rfl
    omega
  | some value =>
    simp only [String.append_empty, String.append_right_inj, Option.some.injEq, exists_eq_left']
    exact eq_comm

/-- Only a default that reads as an expression is written as anything but a literal. -/
theorem writesDefault_expression_iff {c : Column} {written : String} :
    WritesDefault c written ∧ ¬IsLiteral written ↔
      c.defaultValue = some written ∧ isExpressionDefault written = true ∧
        ¬IsLiteral written := by
  rw [writesDefault_iff]
  constructor
  · rintro ⟨⟨value, given, wrote⟩, compound⟩
    cases expression : isExpressionDefault value with
    | false =>
      rw [defaultText, expression] at wrote
      rw [wrote] at compound
      exact absurd (isLiteral_quoteLiteral value) compound
    | true =>
      rw [defaultText, expression] at wrote
      rw [wrote] at compound ⊢
      exact ⟨given, expression, compound⟩
  · rintro ⟨given, expression, compound⟩
    exact ⟨⟨written, given, (if_pos expression).symm⟩, compound⟩

/-- The column is written with the expression as its default, with or without parentheses. -/
def KeepsDefault (c : Column) (expression : String) : Prop :=
  ∃ written, (WritesDefault c written ∧ ¬IsLiteral written) ∧
    (written = expression ∨ written = "(" ++ expression ++ ")")

end Sqlite

namespace Catalog.Sqlite

/-- What introspection makes of a default: nothing of `NULL`, the contents of a text between quotes,
and the text itself of any other. -/
theorem normalizeDefault_cases (text : String) :
    (normalizeDefault text = none ∧ sameLetters (trim text) "NULL" = true) ∨
      (normalizeDefault text = some (trim text) ∧ sameLetters (trim text) "NULL" = false) ∨
      ∃ contents cs, normalizeDefault text = some contents ∧ (trim text).toList = '\'' :: cs ∧
        contents.length < text.length := by
  have shown : trim text = String.ofList (strip text.toList) := rfl
  unfold normalizeDefault
  rw [shown]
  dsimp only
  split
  · rename_i null
    exact .inl ⟨rfl, null⟩
  · rename_i expression
    rw [Bool.not_eq_true] at expression
    split
    · rename_i rest stripped
      split
      · refine .inr (.inr ⟨_, rest, rfl, by rw [String.toList_ofList, stripped], ?_⟩)
        have inside := length_undouble_le '\'' rest.dropLast
        have outside := length_strip_le text.toList
        rw [stripped, List.length_cons, String.length_toList] at outside
        rw [List.length_dropLast] at inside
        rw [String.length_ofList]
        omega
      · exact .inr (.inl ⟨by rw [stripped], expression⟩)
    · exact .inr (.inl ⟨rfl, expression⟩)

theorem opens_of_keepsDefault {c : Column} {text : String}
    (found : c.defaultValue = normalizeDefault text)
    (kept : SchemaShift.Sqlite.KeepsDefault c text) : OpensAsExpression text := by
  obtain ⟨written, kept, same⟩ := kept
  obtain ⟨given, expression, -⟩ := SchemaShift.Sqlite.writesDefault_expression_iff.1 kept
  rw [found] at given
  have bracketed : text.length < ("(" ++ text ++ ")").length := by
    simp only [String.length_append]
    have bracket : "(".length = 1 := rfl
    omega
  -- Nothing gets longer on the way, so the text has to be written as it stands.
  obtain ⟨none, -⟩ | ⟨whole, notNull⟩ | ⟨contents, cs, cut, -, shorter⟩ :=
    normalizeDefault_cases text
  · rw [none] at given
    cases given
  · rw [whole, Option.some.injEq] at given
    have short : written.length ≤ text.length := by
      rw [← given, trim, String.length_ofList, ← String.length_toList]
      exact length_strip_le text.toList
    rcases same with rfl | rfl
    · rw [given] at notNull
      exact (isExpressionDefault_iff given notNull).1 expression
    · exact absurd bracketed (Nat.not_lt.2 short)
  · rw [cut, Option.some.injEq] at given
    rw [given] at shorter
    rcases same with rfl | rfl
    · exact absurd shorter (Nat.lt_irrefl _)
    · exact absurd bracketed (Nat.not_lt.2 (Nat.le_of_lt shorter))

theorem keepsDefault_of_opens {c : Column} {text : String}
    (found : c.defaultValue = normalizeDefault text) (opens : OpensAsExpression text) :
    SchemaShift.Sqlite.KeepsDefault c text := by
  have trimmed : trim text = text := opens.1
  obtain ⟨-, null⟩ | ⟨whole, notNull⟩ | ⟨contents, cs, -, quoted, -⟩ :=
    normalizeDefault_cases text
  · rw [trimmed] at null
    exact absurd opens (not_opening_of_null null)
  · rw [trimmed] at whole notNull
    have compound : ¬IsLiteral text := fun literal => by
      obtain ⟨cs, quoted⟩ := quoted_of_isLiteral literal
      exact not_opening_of_quoted quoted opens
    have expression := (isExpressionDefault_iff trimmed notNull).2 opens
    exact ⟨text, SchemaShift.Sqlite.writesDefault_expression_iff.2
      ⟨found.trans whole, expression, compound⟩, .inl rfl⟩
  · rw [trimmed] at quoted
    exact absurd opens (not_opening_of_quoted quoted)

theorem keepsDefault_iff {c : Column} {text : String}
    (found : c.defaultValue = normalizeDefault text) :
    SchemaShift.Sqlite.KeepsDefault c text ↔ OpensAsExpression text :=
  ⟨opens_of_keepsDefault found, keepsDefault_of_opens found⟩

/-! ### Written defaults -/

/-- A literal is introspected as its text. -/
theorem normalizeDefault_quoteLiteral (value : String) :
    normalizeDefault (quoteLiteral value) = some value := by
  have bare : strip (quoteLiteral value).toList =
      '\'' :: (double '\'' value.toList ++ ['\'']) := by
    rw [quoteLiteral, quote, String.toList_ofList, strip,
      stripStart_cons_of_not_blank _ (by decide), ← List.cons_append,
      stripEnd_concat_of_not_blank _ (by decide)]
  have notNull := not_null_of_quoted (String.toList_ofList (l := strip (quoteLiteral value).toList)
    |>.trans bare)
  unfold normalizeDefault
  dsimp only
  rw [notNull, bare]
  simp [undouble_double]

/-- An expression is introspected as it is, without the blanks around it, unless it is `NULL`. -/
theorem normalizeDefault_expression {value : String}
    (expression : isExpressionDefault value = true) :
    normalizeDefault value =
      if sameLetters (trim value) "NULL" = true then none else some (trim value) := by
  obtain ⟨none, null⟩ | ⟨whole, notNull⟩ | ⟨contents, cs, -, quoted, -⟩ :=
    normalizeDefault_cases value
  · rw [none, if_pos null]
  · rw [whole, notNull, if_neg Bool.false_ne_true]
  · rw [isExpressionDefault_of_quoted quoted] at expression
    cases expression

/-- Whatever the column and its default: the definition for SQLite has one text behind `DEFAULT`,
and introspection finds the default in it exactly if it is written as a literal, or has no blanks
around it and is not `NULL`. -/
theorem default_readsBack_iff (c : Column) (value : String) :
    ∃ written,
      (∀ text, SchemaShift.Sqlite.WritesDefault (c.withDefault value) text ↔ text = written) ∧
      (normalizeDefault written = some value ↔ isExpressionDefault value = false ∨
        trim value = value ∧ sameLetters value "NULL" = false) := by
  refine ⟨defaultText quoteLiteral value, fun text => ?_, ?_⟩
  · rw [SchemaShift.Sqlite.writesDefault_iff]
    simp [Column.withDefault]
  · cases expression : isExpressionDefault value with
    | false =>
      rw [defaultText, expression, if_neg Bool.false_ne_true]
      exact iff_of_true (normalizeDefault_quoteLiteral value) (.inl rfl)
    | true =>
      rw [defaultText, expression, if_pos rfl, normalizeDefault_expression expression]
      constructor
      · intro found
        split at found
        · cases found
        · rename_i notNull
          have bare := Option.some.inj found
          rw [bare, Bool.not_eq_true] at notNull
          exact .inr ⟨bare, notNull⟩
      · rintro (literal | ⟨bare, notNull⟩)
        · cases literal
        · rw [bare, notNull, if_neg Bool.false_ne_true]

-- An expression loses the blanks around it, a literal keeps them.
example : normalizeDefault (defaultText quoteLiteral " now()") = some "now()" ∧
    normalizeDefault (defaultText quoteLiteral " now") = some " now" := by
  decide +kernel

/-! ### Introspected tables -/

@[simp] theorem defaultValue_withKey (c : Column) (key : KeyRole) :
    (c.withKey key).defaultValue = c.defaultValue :=
  rfl

theorem name_column (counting : Bool) (c : CatalogColumn) : (column counting c).name = c.name := by
  unfold column
  dsimp only
  split <;> rfl

theorem defaultValue_column (counting : Bool) (c : CatalogColumn) :
    (column counting c).defaultValue = c.default?.bind normalizeDefault := by
  unfold column
  dsimp only
  split <;> rfl

/-- Whatever default a catalog gives a column: the column that introspection finds is written with
that expression exactly if its text begins like one. The others, literals and `NULL` among them, are
written as string literals or left out. -/
theorem defaults_kept_iff (t : CatalogTable) :
    List.Forall₂ (fun (found : CatalogColumn) c => c.name = found.name ∧
        ∀ text, found.default? = some text →
          (SchemaShift.Sqlite.KeepsDefault c text ↔ OpensAsExpression text))
      t.listed (table t).columns := by
  obtain ⟨role, assigned⟩ := assignKeyRoles_eq (t.listed.map (column (isCounting t)))
    (indexes t).values
  have columns : (table t).columns =
      t.listed.map fun c => (column (isCounting t) c).withKey (role (column (isCounting t) c)) := by
    rw [table, assigned, List.map_map]
    rfl
  rw [columns, List.forall₂_map_right_iff]
  refine List.forall₂_same.2 fun found _ => ⟨name_column _ found, fun text given => ?_⟩
  have carried : (column (isCounting t) found).defaultValue = normalizeDefault text := by
    rw [defaultValue_column, given, Option.bind_some]
  exact keepsDefault_iff ((defaultValue_withKey _ _).trans carried)

/-- A table of events with a default for their time. -/
def eventsTable (default : String) : CatalogTable :=
  { name := "events"
    definition := "events (at TEXT DEFAULT (" ++ default ++ "))"
    columns :=
      [{ name := "at", declared := "TEXT", notNull := false, default? := some default,
         keyOrdinal := 0, isGenerated := false }]
    indexes := [] }

/-- It begins with a blob, in small letters, and ends in a string literal. -/
theorem blob_default_kept :
    ∃ c, (table (eventsTable "x'0a' || 'b'")).columns = [c] ∧
      SchemaShift.Sqlite.KeepsDefault c "x'0a' || 'b'" := by
  obtain ⟨c, rest, kept, none, columns⟩ :=
    List.forall₂_cons_left_iff.1 (defaults_kept_iff (eventsTable "x'0a' || 'b'"))
  rw [List.forall₂_nil_left_iff.1 none] at columns
  exact ⟨c, columns, (kept.2 _ rfl).2 (by decide +kernel)⟩

/-- A call of a function comes out as a string literal. -/
theorem function_default_quoted :
    ((Store.fresh "2024-01-01 00:00:00").execute
        "CREATE TABLE events (at TEXT DEFAULT (datetime('now')))").2.tables.map (·.columns) =
        [(eventsTable "datetime('now')").columns] ∧
      sameLetters "datetime('now')" "NULL" = false ∧ ¬IsLiteral "datetime('now')" ∧
      (table (eventsTable "datetime('now')")).columns.map SchemaShift.Sqlite.columnDefinition =
        ["\"at\" text DEFAULT 'datetime(''now'')'"] ∧
      ∀ c ∈ (table (eventsTable "datetime('now')")).columns,
        ¬SchemaShift.Sqlite.KeepsDefault c "datetime('now')" := by
  refine ⟨by decide +kernel, by decide +kernel, by decide +kernel, by decide +kernel, ?_⟩
  intro c member
  have carried : ∀ c ∈ (table (eventsTable "datetime('now')")).columns,
      c.defaultValue = normalizeDefault "datetime('now')" := by decide +kernel
  rw [keepsDefault_iff (carried c member)]
  decide +kernel

-- A concatenation of literals even loses the quotes at its ends first.
example :
    (table (eventsTable "'a' || 'b'")).columns.map SchemaShift.Sqlite.columnDefinition =
      ["\"at\" text DEFAULT 'a'' || ''b'"] := by
  decide +kernel

end Catalog.Sqlite

end SchemaShift

import SchemaShift.Ddl.Dialect
import SchemaShift.Proofs.Ddl.OneLine
import SchemaShift.Proofs.Schema.Modifiers

/-!
# Line breaks in statements for MySQL

A statement for MySQL holds names, types, options and modifiers as they are, and a default that
reads as an expression too. All other texts, comments among them, get into it as literals, and a
literal writes its line breaks with a backslash. So a statement is on one line whenever what it
holds as it is has no line break, whatever the literals say.
-/

namespace SchemaShift

open Text

/-- Neither a line feed nor a carriage return stands in the text. -/
def Unbroken (s : String) : Prop :=
  Lacks '\n' s ∧ Lacks '\r' s

instance (s : String) : Decidable (Unbroken s) :=
  inferInstanceAs (Decidable (_ ∧ _))

namespace Text

theorem unbroken_append {s t : String} : Unbroken (s ++ t) ↔ Unbroken s ∧ Unbroken t := by
  rw [Unbroken, lacks_append, lacks_append, and_and_and_comm]
  rfl

theorem unbroken_join {sep : String} (plain : Unbroken sep) (ss : List String) :
    Unbroken (join sep ss) ↔ ∀ s ∈ ss, Unbroken s := by
  rw [Unbroken, lacks_join plain.1, lacks_join plain.2, ← forall₂_and]
  rfl

theorem unbroken_of_subset {s t : String} (within : s.toList ⊆ t.toList) (whole : Unbroken t) :
    Unbroken s :=
  ⟨fun member => whole.1 (within member), fun member => whole.2 (within member)⟩

theorem strip_subset (cs : List Char) : strip cs ⊆ cs := by
  intro c member
  obtain ⟨front, back, whole, -, -⟩ := strip_between cs
  rw [whole]
  exact List.mem_append_right front (List.mem_append_left back member)

theorem unbroken_trim {s : String} (whole : Unbroken s) : Unbroken (trim s) := by
  refine unbroken_of_subset ?_ whole
  rw [trim, String.toList_ofList]
  exact strip_subset s.toList

end Text

/-! ### What a statement holds as it is -/

/-- The default, if a statement for MySQL holds it as it is. The default of a generated column is
not written at all. -/
def Column.verbatimDefault (c : Column) : Option String :=
  c.defaultValue.filter fun value =>
    !c.isGenerated && (isExpressionDefault value || c.hasExpressionDefault)

/-- The default, unless it is written as a literal, and the comment do not matter. -/
structure Column.FitsLine (c : Column) : Prop where
  name : Unbroken c.name
  type : Unbroken c.columnType
  extra : Unbroken c.extra
  generation : Unbroken c.generationExpression
  verbatim : ∀ value ∈ c.verbatimDefault, Unbroken value

structure Index.FitsLine (i : Index) : Prop where
  name : Unbroken i.name
  columns : ∀ name ∈ i.columns, Unbroken name

structure Table.FitsLine (t : Table) : Prop where
  name : Unbroken t.name
  engine : Unbroken t.engine
  collation : Unbroken t.collation
  columns : ∀ c ∈ t.columns, c.FitsLine
  indexes : ∀ i ∈ t.indexes.values, i.FitsLine

structure OptionsChange.FitsLine (o : OptionsChange) : Prop where
  engine : ∀ engine ∈ o.engine, Unbroken engine
  collation : ∀ collation ∈ o.collation, Unbroken collation

structure ChangeSet.FitsLine (s : ChangeSet) : Prop where
  added : ∀ c ∈ s.addedColumns, c.FitsLine
  changed : ∀ c ∈ s.changedColumns, c.new.FitsLine
  indexes : ∀ i ∈ s.deletedIndexes ++ s.addedIndexes, i.FitsLine
  options : ∀ o ∈ s.options, o.FitsLine

/-- Names, types, engines, character sets, collations, modifiers, expressions of generated columns
and the defaults that are no literals have no line break. Nothing is asked of comments and of the
other defaults. -/
def SchemaChange.FitsLine : SchemaChange → Prop
  | .alterSchema name options =>
    Unbroken name ∧ Unbroken options.charset ∧ Unbroken options.collation
  | .createTable t => t.FitsLine
  | .dropTable t => Unbroken t.name
  | .alterTable table changes => Unbroken table ∧ changes.FitsLine

namespace MySql

/-! ### Names and literals -/

theorem unbroken_quoteIdentifier (name : String) :
    Unbroken (quoteIdentifier name) ↔ Unbroken name :=
  and_congr (lacks_quote (by decide) name) (lacks_quote (by decide) name)

theorem escape_unbroken (c : Char) : '\n' ∉ escape c ∧ '\r' ∉ escape c := by
  unfold escape
  split
  · decide
  split
  · decide
  split
  · decide
  split
  · decide
  split
  · decide
  · rename_i feed carriage _
    exact ⟨fun member => feed (List.mem_singleton.1 member).symm,
      fun member => carriage (List.mem_singleton.1 member).symm⟩

/-- A literal is on one line, whatever its text. -/
theorem unbroken_quoteString (s : String) : Unbroken (quoteString s) := by
  constructor
  · simp [Lacks, quoteString, escape_unbroken]
  · simp [Lacks, quoteString, escape_unbroken]

theorem unbroken_named {keyword name : String} (short : Unbroken keyword) (plain : Unbroken name) :
    Unbroken (keyword ++ quoteIdentifier name) :=
  unbroken_append.2 ⟨short, (unbroken_quoteIdentifier name).2 plain⟩

theorem unbroken_parenthesized (s : String) : Unbroken (parenthesized s) ↔ Unbroken s := by
  simp +decide only [parenthesized, unbroken_append, true_and, and_true]

theorem unbroken_listed (ss : List String) :
    Unbroken (join ", " ss) ↔ ∀ s ∈ ss, Unbroken s :=
  unbroken_join (by decide) ss

/-! ### Columns -/

theorem unbroken_commentClause (comment : String) : Unbroken (commentClause comment) := by
  unfold commentClause
  split
  · decide
  · simp +decide only [unbroken_append, unbroken_quoteString, and_true]

theorem unbroken_generatedClause {c : Column} (fits : c.FitsLine) :
    Unbroken (generatedClause c) := by
  have storage : Unbroken (if c.isStored then " STORED" else " VIRTUAL") := by
    cases c.isStored <;> decide
  unfold generatedClause
  split
  · simp +decide only [unbroken_append, unbroken_parenthesized, unbroken_trim fits.generation,
      storage, and_true]
  · decide

theorem unbroken_defaultClause {c : Column} (fits : c.FitsLine) : Unbroken (defaultClause c) := by
  have verbatim {value : String} (given : c.defaultValue = some value)
      (defined : c.isGenerated = false)
      (expression : (isExpressionDefault value || c.hasExpressionDefault) = true) :
      Unbroken value := by
    refine fits.verbatim value ?_
    rw [Column.verbatimDefault, given, Option.mem_def, Option.filter_some, defined, expression]
    rfl
  unfold defaultClause
  cases given : c.defaultValue with
  | none => exact (by decide : Unbroken "")
  | some value =>
    dsimp only
    split
    · decide
    · rename_i defined
      rw [Bool.not_eq_true] at defined
      split
      · rename_i hidden
        have expression := (Bool.and_eq_true_iff.1 hidden).1
        have whole := verbatim given defined (by rw [expression, Bool.or_true])
        simp +decide only [unbroken_append, unbroken_parenthesized, unbroken_trim whole, and_true]
      · rw [defaultText]
        split
        · rename_i expression
          have whole := verbatim given defined (by rw [expression, Bool.true_or])
          simp +decide only [unbroken_append, whole, and_true]
        · simp +decide only [unbroken_append, unbroken_quoteString, and_true]

theorem unbroken_onUpdateClause {c : Column} (fits : c.FitsLine) :
    Unbroken (onUpdateClause c) := by
  unfold onUpdateClause
  cases found : c.onUpdate with
  | none => decide
  | some clause =>
    obtain ⟨rest, occurs, rfl⟩ := Option.map_eq_some_iff.1 found
    obtain ⟨-, front, whole⟩ := from?_eq_some occurs
    -- The clause is a part of the modifiers, cut at both ends.
    have within : strip ((strip rest).drop "on update".length) ⊆ c.extra.toList := by
      rw [whole]
      have inRest : strip ((strip rest).drop "on update".length) ⊆ rest :=
        List.Subset.trans (strip_subset _)
          (List.Subset.trans (List.drop_subset _ _) (strip_subset rest))
      exact List.Subset.trans inRest (List.subset_append_right front rest)
    have clause : Unbroken (String.ofList (strip ((strip rest).drop "on update".length))) :=
      unbroken_of_subset (by rwa [String.toList_ofList]) fits.extra
    simp +decide only [unbroken_append, String.toList_ofList, clause, and_true]

theorem unbroken_columnDefinition {c : Column} (fits : c.FitsLine) :
    Unbroken (columnDefinition c) := by
  have nullability : Unbroken (if c.nullable then " NULL" else " NOT NULL") := by
    cases c.nullable <;> decide
  have counting : Unbroken (if c.autoIncrement then " AUTO_INCREMENT" else "") := by
    cases c.autoIncrement <;> decide
  unfold columnDefinition
  simp +decide only [unbroken_append, unbroken_quoteIdentifier, fits.name, fits.type,
    unbroken_generatedClause fits, nullability, unbroken_defaultClause fits, counting,
    unbroken_onUpdateClause fits, unbroken_commentClause, and_true]

theorem unbroken_skipUnknown {table : String} {columns : List Column} {s : Statement}
    (plain : Unbroken table) (fits : ∀ c ∈ columns, c.FitsLine)
    (skipped : skipUnknown table columns = some s) : Unbroken s.sql := by
  obtain ⟨c, found, rfl⟩ := Option.map_eq_some_iff.1 skipped
  have name := (fits c (List.mem_of_find?_eq_some found)).name
  simp +decide only [Statement.unsupported, unbroken_append, plain, name, and_true]

/-! ### Indexes -/

theorem unbroken_columnList {columns : List String} (plain : ∀ name ∈ columns, Unbroken name) :
    Unbroken (columnList columns) := by
  rw [columnList, unbroken_parenthesized, unbroken_listed, List.forall_mem_map]
  exact fun name member => (unbroken_quoteIdentifier name).2 (plain name member)

theorem unbroken_indexHead {i : Index} (fits : i.FitsLine) : Unbroken (indexHead i) := by
  unfold indexHead
  cases i.kind with
  | primary => exact (by decide : Unbroken "PRIMARY KEY")
  | unique => exact unbroken_named (by decide) fits.name
  | normal => exact unbroken_named (by decide) fits.name
  | fulltext => exact unbroken_named (by decide) fits.name
  | spatial => exact unbroken_named (by decide) fits.name

theorem unbroken_indexDefinition {i : Index} (fits : i.FitsLine) :
    Unbroken (indexDefinition i) := by
  unfold indexDefinition
  simp +decide only [unbroken_append, unbroken_indexHead fits, unbroken_columnList fits.columns,
    unbroken_commentClause, and_true]

theorem unbroken_dropIndexClause {i : Index} (fits : i.FitsLine) :
    Unbroken (dropIndexClause i) := by
  have dropped : Unbroken ("DROP INDEX " ++ quoteIdentifier i.name) :=
    unbroken_named (by decide) fits.name
  unfold dropIndexClause
  cases i.kind with
  | primary => exact (by decide : Unbroken "DROP PRIMARY KEY")
  | unique => exact dropped
  | normal => exact dropped
  | fulltext => exact dropped
  | spatial => exact dropped

/-! ### Options -/

theorem unbroken_engineOption {engine : String} (plain : Unbroken engine) :
    Unbroken (engineOption engine) := by
  simp +decide only [engineOption, unbroken_append, plain, and_true]

theorem unbroken_collationOption {collation : String} (plain : Unbroken collation) :
    Unbroken (collationOption collation) := by
  -- The character set is the front of the name of the collation.
  have charset : Unbroken (charsetOf collation) := by
    refine unbroken_of_subset ?_ plain
    rw [charsetOf, String.toList_ofList]
    exact (List.takeWhile_sublist _).subset
  unfold collationOption
  simp +decide only [unbroken_append, charset, plain, and_true]

theorem unbroken_commentOption (comment : String) : Unbroken (commentOption comment) := by
  simp +decide only [commentOption, unbroken_append, unbroken_quoteString, and_true]

theorem unbroken_tableOptions {t : Table} (fits : t.FitsLine) :
    ∀ option ∈ tableOptions t, Unbroken option := by
  have given (p : Prop) [Decidable p] {option : String} (plain : Unbroken option) :
      ∀ text ∈ (if p then [] else [option]), Unbroken text := by
    split
    · exact List.forall_mem_nil _
    · exact List.forall_mem_singleton.2 plain
  refine List.forall_mem_append.2 ⟨List.forall_mem_append.2 ⟨?_, ?_⟩, ?_⟩
  · exact given _ (unbroken_engineOption fits.engine)
  · exact given _ (unbroken_collationOption fits.collation)
  · exact given _ (unbroken_commentOption t.comment)

theorem unbroken_changedOptions {o : OptionsChange} (fits : o.FitsLine) :
    ∀ clause ∈ changedOptions o, Unbroken clause := by
  have given {written : String → String} {value : Option String}
      (plain : ∀ text ∈ value, Unbroken (written text)) :
      ∀ clause ∈ (value.map written).toList, Unbroken clause := by
    cases value with
    | none => exact List.forall_mem_nil _
    | some text => exact List.forall_mem_singleton.2 (plain text rfl)
  refine List.forall_mem_append.2 ⟨List.forall_mem_append.2 ⟨?_, ?_⟩, ?_⟩
  · exact given fun engine member => unbroken_engineOption (fits.engine engine member)
  · exact given fun name member => unbroken_collationOption (fits.collation name member)
  · exact given fun comment _ => unbroken_commentOption comment

/-! ### Statements -/

theorem unbroken_createTable {t : Table} (fits : t.FitsLine) :
    ∀ s ∈ createTable t, Unbroken s.sql := by
  unfold createTable
  cases skipped : skipUnknown t.name t.columns with
  | some s =>
    exact List.forall_mem_singleton.2 (unbroken_skipUnknown fits.name fits.columns skipped)
  | none =>
    have columns : ∀ text ∈ t.columns.map columnDefinition, Unbroken text :=
      List.forall_mem_map.2 fun c member => unbroken_columnDefinition (fits.columns c member)
    have indexes (p : Index → Bool) : ∀ i ∈ t.indexes.values.filter p,
        Unbroken (indexDefinition i) :=
      fun i member => unbroken_indexDefinition (fits.indexes i (List.mem_filter.1 member).1)
    have options : Unbroken (if (tableOptions t).isEmpty then ""
        else " " ++ join " " (tableOptions t)) := by
      split
      · decide
      · rw [unbroken_append, unbroken_join (by decide)]
        exact ⟨by decide, unbroken_tableOptions fits⟩
    refine List.forall_mem_singleton.2 ?_
    simp +decide only [unbroken_append, unbroken_quoteIdentifier, fits.name,
      unbroken_parenthesized, unbroken_listed, List.forall_mem_append, List.forall_mem_map, options,
      true_and, and_true]
    exact ⟨List.forall_mem_map.1 columns, indexes _, indexes _⟩

theorem unbroken_alterTable {table : String} {s : ChangeSet} (plain : Unbroken table)
    (fits : s.FitsLine) : ∀ statement ∈ alterTable table s, Unbroken statement.sql := by
  obtain ⟨gone, come⟩ := List.forall_mem_append.1 fits.indexes
  unfold alterTable
  cases skipped : skipUnknown table (s.addedColumns ++ s.changedColumns.map (·.new)) with
  | some statement =>
    have touched := List.forall_mem_append.2 ⟨fits.added, List.forall_mem_map.2 fits.changed⟩
    exact List.forall_mem_singleton.2 (unbroken_skipUnknown plain touched skipped)
  | none =>
    have dropped : ∀ clause ∈ s.deletedIndexes.map dropIndexClause, Unbroken clause :=
      List.forall_mem_map.2 fun i member => unbroken_dropIndexClause (gone i member)
    have added : ∀ clause ∈ s.addedColumns.map (fun c => "ADD COLUMN " ++ columnDefinition c),
        Unbroken clause := by
      refine List.forall_mem_map.2 fun c member => ?_
      exact unbroken_append.2 ⟨by decide, unbroken_columnDefinition (fits.added c member)⟩
    have modified : ∀ clause ∈ s.changedColumns.map
        (fun c => "MODIFY COLUMN " ++ columnDefinition c.new), Unbroken clause := by
      refine List.forall_mem_map.2 fun c member => ?_
      exact unbroken_append.2 ⟨by decide, unbroken_columnDefinition (fits.changed c member)⟩
    have created : ∀ clause ∈ s.addedIndexes.map (fun i => "ADD " ++ indexDefinition i),
        Unbroken clause := by
      refine List.forall_mem_map.2 fun i member => ?_
      exact unbroken_append.2 ⟨by decide, unbroken_indexDefinition (come i member)⟩
    have options : ∀ clause ∈ (s.options.map changedOptions).getD [], Unbroken clause := by
      cases given : s.options with
      | none => exact List.forall_mem_nil _
      | some o => exact unbroken_changedOptions (fits.options o given)
    dsimp only
    split
    · exact List.forall_mem_nil _
    · refine List.forall_mem_singleton.2 ?_
      simp +decide only [unbroken_append, unbroken_quoteIdentifier, plain, unbroken_listed,
        List.forall_mem_append, true_and, and_true]
      exact ⟨⟨⟨⟨dropped, added⟩, modified⟩, created⟩, options⟩

theorem unbroken_alterSchema {name : String} {options : SchemaOptions} (plain : Unbroken name)
    (charset : Unbroken options.charset) (collation : Unbroken options.collation) :
    ∀ s ∈ alterSchema name options, Unbroken s.sql := by
  have clause (keyword value : String) (p : Prop) [Decidable p] (short : Unbroken keyword)
      (given : Unbroken value) : Unbroken (if p then "" else keyword ++ value) := by
    split
    · decide
    · exact unbroken_append.2 ⟨short, given⟩
  refine List.forall_mem_singleton.2 ?_
  simp +decide only [unbroken_append, unbroken_quoteIdentifier, plain, true_and]
  exact ⟨clause _ _ _ (by decide) charset, clause _ _ _ (by decide) collation⟩

/-- What a change tells MySQL is on one line, comments in the place of statements included. Only
what a statement holds as it is can break the line: no comment on a table, a column or an index
and no default that is written as a literal. -/
theorem emit_unbroken {change : SchemaChange} (fits : change.FitsLine) :
    ∀ s ∈ Dialect.mysql.emit change, Unbroken s.sql := by
  cases change with
  | alterSchema name options =>
    obtain ⟨plain, charset, collation⟩ := fits
    exact unbroken_alterSchema plain charset collation
  | createTable t => exact unbroken_createTable fits
  | dropTable t =>
    have plain : Unbroken t.name := fits
    exact List.forall_mem_singleton.2 (unbroken_named (by decide) plain)
  | alterTable table changes =>
    obtain ⟨plain, fits⟩ := fits
    exact unbroken_alterTable plain fits

/-- Line breaks in a literal default and in the comments of a column, an index and the table, beside
a default and a clause that are written as they are. -/
def memosChange : SchemaChange :=
  let body := ((Column.ofType "body" "text").withDefault "one\r\ntwo").withComment "it's\nlong"
  let changed := Column.ofType "changed" "timestamp"
  let row := IndexMember.ofColumn "ix_body" "memos" "body" 1 true
  .alterTable "memos"
    { addedColumns := [body]
      changedColumns :=
        [{ old := changed
           new := (changed.withDefault "CURRENT_TIMESTAMP").withExtra
            "DEFAULT_GENERATED on update CURRENT_TIMESTAMP" }]
      addedIndexes := [.ofMember { row with comment := "by\nbody" }]
      deletedIndexes := []
      options := some { engine := some "InnoDB", collation := none, comment := some "\r\n" } }

theorem memos_unbroken :
    memosChange.FitsLine ∧ (Dialect.mysql.emit memosChange).map (·.isExecutable) = [true] ∧
      ∀ s ∈ Dialect.mysql.emit memosChange, Unbroken s.sql := by
  have fits : memosChange.FitsLine := by
    refine ⟨by decide, ⟨?_, ?_, ?_, ?_⟩⟩
    · exact List.forall_mem_singleton.2
        ⟨by decide, by decide +kernel, by decide, by decide, by decide +kernel⟩
    · exact List.forall_mem_singleton.2
        ⟨by decide, by decide +kernel, by decide, by decide, by decide +kernel⟩
    · exact List.forall_mem_singleton.2 ⟨by decide, by decide⟩
    · rintro o ⟨⟩
      exact ⟨by decide, by decide⟩
  exact ⟨fits, by decide +kernel, emit_unbroken fits⟩

end MySql

end SchemaShift

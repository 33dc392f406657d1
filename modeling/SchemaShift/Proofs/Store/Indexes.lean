import Mathlib.Data.List.Nodup
import SchemaShift.Proofs.Text.Integer
import SchemaShift.Store.Basic

/-!
# Indexes that statements leave behind

Whatever text runs, a table of the store has no two indexes of one name and no index without
members. The members come from lists in the text, and such a list has an item. The names come from
the text, where a name that is taken is refused, or are numbered.
-/

namespace SchemaShift.Store

open Text Reading

/-- What comes of it has the property, if anything comes of it. -/
def Ensures {ε α : Type} (r : Except ε α) (P : α → Prop) : Prop :=
  ∀ a, r = .ok a → P a

section Ensures

variable {ε α β : Type} {P : α → Prop} {Q : β → Prop}

theorem ensures_ok {a : α} (holds : P a) : Ensures (.ok a : Except ε α) P := by
  intro b same
  cases same
  exact holds

theorem ensures_error {e : ε} : Ensures (.error e) P := by
  intro a same
  cases same

variable {r : Except ε α} {f : α → Except ε β}

theorem Ensures.bind (first : Ensures r P) (next : ∀ a, P a → Ensures (f a) Q) :
    Ensures (r >>= f) Q := by
  cases r with
  | error e => exact ensures_error
  | ok a => exact next a (first a rfl)

theorem ensures_bind (next : ∀ a, Ensures (f a) Q) : Ensures (r >>= f) Q :=
  Ensures.bind (P := fun _ => True) (fun _ _ => trivial) fun a _ => next a

theorem Ensures.either {c : Prop} [Decidable c] {yes no : Except ε α} (if_so : Ensures yes P)
    (otherwise : Ensures no P) : Ensures (if c then yes else no) P := by
  split
  · exact if_so
  · exact otherwise

theorem Ensures.foldlM {step : α → β → Except ε α} {l : List β} {a : α} (holds : P a)
    (keeps : ∀ a, P a → ∀ b ∈ l, Ensures (step a b) P) : Ensures (l.foldlM step a) P := by
  induction l generalizing a with
  | nil => exact ensures_ok holds
  | cons b l ih =>
    rw [List.foldlM_cons]
    refine (keeps a holds b List.mem_cons_self).bind fun a' holds' => ?_
    exact ih holds' fun a holds c member => keeps a holds c (List.mem_cons_of_mem b member)

theorem ensures_mapM_ne_nil {l : List α} (some_item : l ≠ []) :
    Ensures (l.mapM f) (· ≠ []) := by
  obtain ⟨a, rest, rfl⟩ := List.exists_cons_of_ne_nil some_item
  rw [List.mapM_cons]
  exact ensures_bind fun b => ensures_bind fun bs => ensures_ok (List.cons_ne_nil b bs)

end Ensures

/-! ### Lists in a text -/

namespace Reading

/-- What comes of the reading has the property, whatever the tokens are. -/
def Yields {α : Type} (r : Reading α) (P : α → Prop) : Prop :=
  ∀ ts, Ensures (r ts) fun result => P result.1

section Yields

variable {α β : Type} {r : Reading α} {f : α → Reading β} {P : α → Prop} {Q : β → Prop}

theorem yields_pure {a : α} (holds : P a) : Yields (pure a) P :=
  fun _ => ensures_ok holds

theorem Yields.bind (first : Yields r P) (next : ∀ a, P a → Yields (f a) Q) :
    Yields (r >>= f) Q :=
  fun ts => (first ts).bind fun result holds => next result.1 holds result.2

theorem yields_bind (next : ∀ a, Yields (f a) Q) : Yields (r >>= f) Q :=
  fun _ => ensures_bind fun result => next result.1 result.2

theorem Yields.either {c : Prop} [Decidable c] {yes no : Reading α} (if_so : Yields yes P)
    (otherwise : Yields no P) : Yields (if c then yes else no) P := by
  split
  · exact if_so
  · exact otherwise

theorem yields_accept {word : String} {yes no : Reading α} (if_so : Yields yes P)
    (otherwise : Yields no P) : Yields (do if ← accept word then yes else no) P :=
  yields_bind fun _ => if_so.either otherwise

end Yields

theorem commaList_ne_nil {α : Type} (item : Reading α) (fuel : Nat) :
    Yields (commaList item fuel) (· ≠ []) := by
  cases fuel with
  | zero => exact fun ts => ensures_error
  | succ fuel =>
    unfold commaList
    refine yields_bind fun a => yields_accept ?_ (yields_pure (List.cons_ne_nil a []))
    exact yields_bind fun rest => yields_pure (List.cons_ne_nil a rest)

end Reading

/-! ### Clauses -/

/-- A key that lists its members has some. -/
def Clause.HasMembers : Clause → Prop
  | .key members _ _ => members ≠ []
  | .unique members _ => members ≠ []
  | _ => True

theorem tableClause_hasMembers : Yields tableClause Clause.HasMembers := by
  unfold tableClause
  refine yields_accept (yields_bind fun _ => yields_pure trivial) ?_
  refine yields_accept ?primary (yields_accept ?unique (yields_accept ?check ?foreign))
  case primary =>
    refine yields_bind fun _ => yields_bind fun _ => yields_bind fun most => ?_
    refine (commaList_ne_nil member most).bind fun members some_member => ?_
    exact yields_bind fun _ => yields_bind fun _ => yields_bind fun _ => yields_pure some_member
  case unique =>
    refine yields_bind fun _ => yields_bind fun most => ?_
    refine (commaList_ne_nil member most).bind fun members some_member => ?_
    exact yields_bind fun _ => yields_bind fun _ => yields_pure some_member
  case check =>
    exact yields_bind fun _ => yields_bind fun _ => yields_bind fun _ => yields_pure trivial
  case foreign =>
    refine yields_bind fun _ => yields_bind fun _ => yields_bind fun columns => ?_
    refine yields_bind fun _ => yields_bind fun ⟨_, count⟩ => yields_bind fun negated => ?_
    refine .either (yields_bind fun _ => yields_bind fun _ => yields_pure trivial) ?_
    exact yields_bind fun _ => .either (yields_pure trivial)
      (yields_bind fun _ => yields_pure trivial)

theorem generatedClause_hasMembers : Yields generatedClause Clause.HasMembers := by
  unfold generatedClause
  exact yields_bind fun _ => yields_bind fun _ => yields_bind fun _ => yields_pure trivial

theorem defaultClause_hasMembers : Yields defaultClause Clause.HasMembers := by
  unfold defaultClause
  exact yields_bind fun _ => .either (yields_bind fun _ => yields_pure trivial)
    (yields_bind fun _ => yields_pure trivial)

theorem columnClause_hasMembers : Yields columnClause Clause.HasMembers := by
  have idle {α : Type} (r : Reading α) : Yields (r >>= fun _ => pure .idle) Clause.HasMembers :=
    yields_bind fun _ => yields_pure trivial
  unfold columnClause
  refine yields_accept (idle _) (yields_accept defaultClause_hasMembers ?_)
  refine yields_accept (idle _) (yields_accept ?not ?_)
  case not =>
    exact yields_accept (idle _)
      (yields_bind fun _ => yields_bind fun _ => yields_pure trivial)
  refine yields_accept ?primary (yields_accept (yields_bind fun _ => yields_pure trivial) ?_)
  case primary =>
    exact yields_bind fun _ => yields_bind fun _ => yields_bind fun _ => yields_bind fun _ =>
      yields_pure trivial
  refine yields_accept (yields_bind fun _ => yields_bind fun _ => yields_pure trivial) ?_
  refine yields_accept (yields_bind fun ⟨_, _⟩ => yields_pure trivial) ?_
  refine yields_accept (idle _) (yields_accept (yields_bind fun _ => yields_pure trivial) ?_)
  exact yields_accept (yields_bind fun _ => yields_bind fun _ => generatedClause_hasMembers)
    (yields_bind fun _ => generatedClause_hasMembers)

theorem column_hasMembers : Yields column Clause.HasMembers := by
  unfold column
  exact yields_bind fun _ => yields_bind fun _ => yields_pure trivial

theorem nextClause_hasMembers (stage : Stage) :
    Yields (nextClause stage) fun next => ∀ c ∈ next.map (·.1), c.HasMembers := by
  have goesOn {r : Reading Clause} (stage : Stage) (yields : Yields r Clause.HasMembers) :
      Yields (do return some (← r, stage)) fun next => ∀ c ∈ next.map (·.1), c.HasMembers := by
    refine yields.bind fun c holds => yields_pure ?_
    simpa using holds
  have ends : ∀ c ∈ (none : Option (Clause × Stage)).map (·.1), c.HasMembers := by simp
  have comma (stage : Stage) :
      ∀ c ∈ (some (Clause.idle, stage)).map (·.1), c.HasMembers := by simp [Clause.HasMembers]
  cases stage with
  | start => exact goesOn _ column_hasMembers
  | inColumn =>
    exact yields_accept (yields_pure ends)
      (yields_accept (yields_pure (comma _)) (goesOn _ columnClause_hasMembers))
  | afterComma =>
    exact yields_bind fun _ =>
      .either (goesOn _ tableClause_hasMembers) (goesOn _ column_hasMembers)
  | inTable =>
    exact yields_accept (yields_pure ends)
      (yields_accept (yields_pure (comma _)) (goesOn _ tableClause_hasMembers))
  | afterTableComma => exact goesOn _ tableClause_hasMembers

theorem gather_hasMembers (fuel : Nat) (stage : Stage) (ts : List Token) :
    ∀ c ∈ (gather nextClause fuel stage ts).1, c.HasMembers := by
  induction fuel generalizing stage ts with
  | zero => exact List.forall_mem_nil _
  | succ fuel ih =>
    rw [gather]
    split
    · exact List.forall_mem_nil _
    · exact List.forall_mem_nil _
    · rename_i c after rest read
      have mine : c.HasMembers := nextClause_hasMembers stage ts _ read c rfl
      dsimp only
      split
      · exact ih after rest
      · exact List.forall_mem_cons.2 ⟨mine, ih after rest⟩

/-! ### Commands -/

/-- What a command makes has members, the keys of a table as well as an index. -/
def Command.HasMembers : Command → Prop
  | .createTable _ _ definition => ∀ c ∈ definition.clauses, c.HasMembers
  | .createIndex _ _ _ _ members _ => members ≠ []
  | _ => True

theorem tableDefinition_hasMembers (name : Token) :
    Yields (tableDefinition name) fun d => ∀ c ∈ d.clauses, c.HasMembers := by
  unfold tableDefinition
  refine yields_bind fun opening ts => ?_
  have clauses := gather_hasMembers (ts.length + 1) .start ts
  dsimp only
  split
  · exact ensures_ok clauses
  · exact ensures_ok clauses

theorem indexCreation_hasMembers (unique : Bool) :
    Yields (indexCreation unique) Command.HasMembers := by
  unfold indexCreation
  refine yields_bind fun _ => yields_bind fun _ => yields_bind fun _ => yields_bind fun _ => ?_
  refine yields_bind fun _ => yields_bind fun most => ?_
  refine (commaList_ne_nil member most).bind fun members some_member => ?_
  have made (condition : Option Expr) (target : Target) (unlessThere : Bool) (table : Token) :
      Yields (do
        finish
        return .createIndex unique target unlessThere table.content members condition)
        Command.HasMembers :=
    yields_bind fun _ => yields_pure some_member
  refine yields_bind fun _ => yields_accept ?_ ?_
  · exact yields_bind fun _ => yields_bind fun condition => made condition _ _ _
  · exact yields_bind fun condition => made condition _ _ _

theorem command_hasMembers : Yields command Command.HasMembers := by
  unfold command
  refine yields_accept (yields_accept ?table (yields_accept ?uniqueIndex ?index))
    (yields_accept (yields_accept ?dropTable ?dropIndex) ?addColumn)
  case table =>
    unfold tableCreation
    refine yields_bind fun _ => yields_bind fun target => ?_
    exact (tableDefinition_hasMembers target.name).bind fun _ clauses => yields_pure clauses
  case uniqueIndex => exact yields_bind fun _ => indexCreation_hasMembers true
  case index => exact yields_bind fun _ => indexCreation_hasMembers false
  case dropTable =>
    unfold tableRemoval
    exact yields_bind fun _ => yields_bind fun _ => yields_bind fun _ => yields_pure trivial
  case dropIndex =>
    unfold indexRemoval
    exact yields_bind fun _ => yields_bind fun _ => yields_bind fun _ => yields_bind fun _ =>
      yields_pure trivial
  case addColumn =>
    unfold columnAddition
    exact yields_bind fun _ => yields_bind fun _ => yields_bind fun _ => yields_bind fun _ =>
      yields_bind fun _ => yields_bind fun _ => yields_pure trivial

theorem ofTokens_hasMembers (ts : List Token) :
    Ensures (Command.ofTokens ts) Command.HasMembers := by
  have read := command_hasMembers ts
  unfold Command.ofTokens
  cases result : command ts with
  | error e => exact ensures_error
  | ok found => exact ensures_ok (read found result)

/-! ### Keys of a draft -/

namespace Draft

/-- There is no key without members. -/
def Keyed (d : Draft) : Prop :=
  ∀ k ∈ d.keys, k.members ≠ []

theorem merge_members (old new : DraftKey) :
    Ensures (merge old new) fun k => k.members = old.members := by
  unfold merge
  split
  · exact .either (ensures_ok rfl) ensures_error
  · exact ensures_ok rfl

theorem addKeyTo_members {new : DraftKey} (some_member : new.members ≠ []) {ks : List DraftKey}
    (keyed : ∀ k ∈ ks, k.members ≠ []) :
    Ensures (addKeyTo new ks) fun ks => ∀ k ∈ ks, k.members ≠ [] := by
  induction ks with
  | nil => exact ensures_ok (List.forall_mem_singleton.2 some_member)
  | cons k ks ih =>
    obtain ⟨mine, others⟩ := List.forall_mem_cons.1 keyed
    rw [addKeyTo]
    refine .either ?_ ?_
    · refine (merge_members k new).bind fun merged same => ensures_ok ?_
      exact List.forall_mem_cons.2 ⟨same ▸ mine, others⟩
    · refine (ih others).bind fun rest holds => ensures_ok ?_
      exact List.forall_mem_cons.2 ⟨mine, holds⟩

variable {d : Draft}

theorem addKey_keyed (keyed : d.Keyed) (isPrimary : Bool) {members : List Member}
    (some_member : members ≠ []) (onConflict : Option Conflict) :
    Ensures (d.addKey isPrimary members onConflict) Keyed := by
  unfold addKey
  split
  · exact ensures_error
  · refine (ensures_mapM_ne_nil some_member).bind fun named some_name => ?_
    exact (addKeyTo_members some_name keyed).bind fun keys holds => ensures_ok holds

theorem markKey_keyed (keyed : d.Keyed) (name : String) : Ensures (d.markKey name) Keyed := by
  unfold markKey
  split
  · exact ensures_ok keyed
  · exact .either ensures_error (ensures_ok keyed)

theorem addPrimaryKey_keyed (keyed : d.Keyed) {members : List Member}
    (some_member : members ≠ []) (descending : Bool) (onConflict : Option Conflict)
    (counting : Bool) :
    Ensures (d.addPrimaryKey members descending onConflict counting) Keyed := by
  have finished (row : Option String) (columns : List DraftColumn) :
      Ensures (do
        let d ← columns.foldlM (fun d c => d.markKey c.name) { d with hasKey := true }
        if row.isSome then return { d with rowNumber? := row, counting }
        else d.addKey true members onConflict) Keyed := by
    have marked : Ensures
        (columns.foldlM (fun d c => d.markKey c.name) { d with hasKey := true }) Keyed :=
      .foldlM keyed fun d keyed c _ => markKey_keyed keyed c.name
    refine marked.bind fun d keyed => .either (ensures_ok keyed) ?_
    exact addKey_keyed keyed true some_member onConflict
  unfold addPrimaryKey
  refine .either ensures_error (.either ?_ (.either ensures_error (finished _ _)))
  split
  · exact ensures_error
  · exact finished _ _

theorem addCollation_keyed (keyed : d.Keyed) (name : String) :
    Ensures (d.addCollation name) Keyed := by
  unfold addCollation
  refine .either ensures_error (ensures_ok fun k member => ?_)
  obtain ⟨old, held, rfl⟩ := List.mem_map.1 member
  rw [ne_eq, List.map_eq_nil_iff]
  exact keyed old held

theorem add_keyed (keyed : d.Keyed) {c : Clause} (members : c.HasMembers) :
    Ensures (d.add c) Keyed := by
  cases c with
  | column name type => exact .either ensures_error (ensures_ok keyed)
  | default text value => exact .either ensures_error (.either ensures_error (ensures_ok keyed))
  | notNull => exact ensures_ok keyed
  | collation name => exact addCollation_keyed keyed name
  | generated e kind => exact .either ensures_error (.either ensures_error (ensures_ok keyed))
  | columnKey descending onConflict counting =>
    exact addPrimaryKey_keyed keyed (List.cons_ne_nil _ _) descending onConflict counting
  | columnUnique onConflict =>
    exact addKey_keyed keyed false (List.cons_ne_nil d.lastMember []) onConflict
  | reference table count => exact .either (ensures_ok keyed) ensures_error
  | key listed onConflict counting =>
    exact addPrimaryKey_keyed keyed members false onConflict counting
  | unique listed onConflict => exact addKey_keyed keyed false members onConflict
  | foreignKey columns count =>
    refine .either ensures_error ?_
    split
    · exact ensures_error
    · exact ensures_ok keyed
  | check e => exact ensures_ok keyed
  | idle => exact ensures_ok keyed

theorem addAll_keyed {clauses : List Clause} (members : ∀ c ∈ clauses, c.HasMembers)
    (name : String) : Ensures ((empty name).addAll clauses) Keyed :=
  .foldlM (List.forall_mem_nil _) fun _ keyed c member => add_keyed keyed (members c member)

theorem addOptions_keyed (keyed : d.Keyed) (options : List TableOption) :
    Ensures (d.addOptions options) Keyed := by
  refine .foldlM keyed fun d keyed option _ => ?_
  cases option with
  | strict =>
    unfold addOption
    dsimp only
    split
    · exact ensures_error
    · exact ensures_ok keyed
  | withoutRowNumbers =>
    exact .either ensures_error (.either ensures_error (ensures_ok keyed))

end Draft

/-! ### Tables -/

/-- The indexes of a table have different names, and each has members. -/
structure CatalogTable.WellIndexed (t : CatalogTable) : Prop where
  names : (t.indexes.map (·.name)).Nodup
  members : ∀ i ∈ t.indexes, i.members ≠ []

namespace CatalogTable.WellIndexed

variable {t : CatalogTable}

theorem ofDraft {d : Draft} (keyed : d.Keyed) (definition : String) :
    (d.table definition).WellIndexed where
  names := by
    have numbered : (d.table definition).indexes.map (·.name) =
        (d.keys.zipIdx.map Prod.snd).map fun i =>
          "sqlite_autoindex_" ++ d.name ++ "_" ++ natText (i + 1) := by
      unfold Draft.table Draft.indexes
      rw [List.mapIdx_eq_zipIdx_map, List.map_map, List.map_map]
      rfl
    rw [numbered, List.zipIdx_map_snd]
    refine List.Nodup.map_on (fun i _ j _ same => ?_) List.nodup_range'
    have digits := natText_inj (String.append_right_inj _ |>.1 same)
    omega
  members := by
    intro i listed
    obtain ⟨place, inside, rfl⟩ := List.mem_mapIdx.1 listed
    rw [ne_eq, List.map_eq_nil_iff]
    exact keyed _ (List.getElem_mem inside)

theorem filter (indexed : t.WellIndexed) (kept : CatalogIndex → Bool) :
    { t with indexes := t.indexes.filter kept }.WellIndexed where
  names := indexed.names.sublist (List.filter_sublist.map _)
  members i listed := indexed.members i (List.mem_of_mem_filter listed)

theorem append (indexed : t.WellIndexed) {i : CatalogIndex} (some_member : i.members ≠ [])
    (free : ∀ j ∈ t.indexes, j.name ≠ i.name) :
    { t with indexes := t.indexes ++ [i] }.WellIndexed where
  names := by
    rw [List.map_append, List.map_singleton]
    refine List.nodup_append.2 ⟨indexed.names, List.nodup_singleton _, ?_⟩
    intro name listed other here
    obtain ⟨j, held, rfl⟩ := List.mem_map.1 listed
    rw [List.mem_singleton.1 here]
    exact free j held
  members := List.forall_mem_append.2
    ⟨indexed.members, List.forall_mem_singleton.2 some_member⟩

end CatalogTable.WellIndexed

/-! ### Statements -/

/-- All tables are. -/
def WellIndexed (s : Store) : Prop :=
  ∀ t ∈ s.tables, t.WellIndexed

variable {s : Store}

theorem fresh_wellIndexed (now : String) : (fresh now).WellIndexed :=
  List.forall_mem_nil _

theorem WellIndexed.addTable (indexed : s.WellIndexed) {d : Draft} (keyed : d.Keyed)
    (definition : String) : (s.addTable d definition).WellIndexed := by
  have counter : sequenceTable.WellIndexed := ⟨List.nodup_nil, List.forall_mem_nil _⟩
  unfold Store.addTable
  refine List.forall_mem_append.2 ⟨List.forall_mem_append.2 ⟨indexed, ?_⟩, ?_⟩
  · exact List.forall_mem_singleton.2 (.ofDraft keyed definition)
  · split
    · exact List.forall_mem_singleton.2 counter
    · exact List.forall_mem_nil _

theorem WellIndexed.updateTable (indexed : s.WellIndexed) {name : String}
    {f : CatalogTable → CatalogTable} (keeps : ∀ t ∈ s.tables, t.WellIndexed → (f t).WellIndexed) :
    (s.updateTable name f).WellIndexed := by
  intro t listed
  obtain ⟨old, held, rfl⟩ := List.mem_map.1 listed
  split
  · exact keeps old held (indexed old held)
  · exact indexed old held

theorem createTable_wellIndexed (indexed : s.WellIndexed) (target : Target) (unlessThere : Bool)
    {definition : Definition} (members : ∀ c ∈ definition.clauses, c.HasMembers) :
    Ensures (s.createTable target unlessThere definition) WellIndexed := by
  unfold createTable
  refine ensures_bind fun _ => .either ensures_error (.either ?_ (.either ensures_error ?_))
  · exact .either ensures_error (ensures_bind fun _ => ensures_ok indexed)
  · refine (Draft.addAll_keyed members target.text).bind fun d keyed => ensures_bind fun _ => ?_
    refine (Draft.addOptions_keyed keyed definition.options).bind fun d keyed => ?_
    exact ensures_bind fun _ => ensures_ok (indexed.addTable keyed definition.text)

theorem dropTable_wellIndexed (indexed : s.WellIndexed) (target : Target) (ifThere : Bool) :
    Ensures (s.dropTable target ifThere) WellIndexed := by
  unfold dropTable
  split
  · exact .either (ensures_ok indexed) ensures_error
  · refine .either ensures_error (ensures_ok fun t listed => ?_)
    exact indexed t (List.mem_of_mem_filter listed)

theorem addColumn_wellIndexed (indexed : s.WellIndexed) (target : Target)
    (definition : Definition) : Ensures (s.addColumn target definition) WellIndexed := by
  unfold addColumn
  split
  · exact ensures_error
  · refine .either ensures_error (ensures_bind fun _ => ensures_bind fun d => ?_)
    split
    · exact ensures_error
    · refine .either ensures_error (.either ensures_error (ensures_ok ?_))
      exact indexed.updateTable fun t _ indexed => ⟨indexed.names, indexed.members⟩

theorem hasIndex_of_mem {t : CatalogTable} (held : t ∈ s.tables) {i : CatalogIndex}
    (listed : i ∈ t.indexes) {name : String} (named : i.name = name) : s.hasIndex name = true := by
  unfold hasIndex index?
  rw [List.find?_isSome]
  refine ⟨i, List.mem_flatMap.2 ⟨t, held, listed⟩, ?_⟩
  rw [named, sameLetters, beq_self_eq_true]

theorem createIndex_wellIndexed (indexed : s.WellIndexed) (unique : Bool) (target : Target)
    (unlessThere : Bool) (table : String) {members : List Member} (some_member : members ≠ [])
    (condition : Option Expr) :
    Ensures (s.createIndex unique target unlessThere table members condition) WellIndexed := by
  unfold createIndex
  cases members.findSome? Member.nulls with
  | some place => exact ensures_error
  | none =>
    refine ensures_bind fun _ => ?_
    cases s.declaredName? table with
    | none => exact ensures_error
    | some declared =>
      refine .either ensures_error (.either ensures_error (.either ensures_error ?_))
      split
      · exact .either (ensures_ok indexed) ensures_error
      · rename_i free
        dsimp only
        split
        · exact ensures_error
        · refine (ensures_mapM_ne_nil some_member).bind fun named some_name => ensures_ok ?_
          refine indexed.updateTable fun t held indexed => indexed.append some_name ?_
          exact fun i listed same => free (hasIndex_of_mem held listed same)

theorem dropIndex_wellIndexed (indexed : s.WellIndexed) (target : Target) (ifThere : Bool) :
    Ensures (s.dropIndex target ifThere) WellIndexed := by
  unfold dropIndex
  split
  · exact .either (ensures_ok indexed) ensures_error
  · rename_i i found
    refine .either (ensures_ok fun t listed => ?_) ensures_error
    obtain ⟨old, held, rfl⟩ := List.mem_map.1 listed
    exact (indexed old held).filter fun j => j.name != i.name

theorem run_wellIndexed (indexed : s.WellIndexed) {c : Command} (members : c.HasMembers) :
    Ensures (s.run c) WellIndexed := by
  cases c with
  | createTable target unlessThere definition =>
    exact createTable_wellIndexed indexed target unlessThere members
  | dropTable target ifThere => exact dropTable_wellIndexed indexed target ifThere
  | createIndex unique target unlessThere table listed condition =>
    exact createIndex_wellIndexed indexed unique target unlessThere table members condition
  | dropIndex target ifThere => exact dropIndex_wellIndexed indexed target ifThere
  | addColumn target definition => exact addColumn_wellIndexed indexed target definition

theorem runAll_wellIndexed (indexed : s.WellIndexed) (pieces : List (List Token)) :
    (s.runAll pieces).2.WellIndexed := by
  induction pieces generalizing s with
  | nil => exact indexed
  | cons ts rest ih =>
    rw [runAll]
    cases read : Command.ofTokens ts with
    | error e => exact indexed
    | ok c =>
      dsimp only
      cases ran : s.run c with
      | error e => exact indexed
      | ok after =>
        exact ih (run_wellIndexed indexed (ofTokens_hasMembers ts c read) after ran)

theorem execute_wellIndexed (indexed : s.WellIndexed) (sql : String) :
    (s.execute sql).2.WellIndexed :=
  runAll_wellIndexed indexed _

/-- The store after some texts have run, each as far as it is accepted. -/
def after (s : Store) (sqls : List String) : Store :=
  sqls.foldl (fun s sql => (s.execute sql).2) s

theorem WellIndexed.after (indexed : s.WellIndexed) (sqls : List String) :
    (s.after sqls).WellIndexed := by
  induction sqls generalizing s with
  | nil => exact indexed
  | cons sql sqls ih =>
    rw [after, List.foldl_cons]
    exact ih (execute_wellIndexed indexed sql)

end SchemaShift.Store

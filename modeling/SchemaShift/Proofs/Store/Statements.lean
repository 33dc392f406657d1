import SchemaShift.Store.Basic

/-!
# Running one statement

The reading of a text does not depend on the store, so a text that holds one statement can be
read once and for all. What its command does is then a matter of the store alone.
-/

namespace SchemaShift.Store

open Text

/-- The command of a text that holds one readable statement. -/
def soleCommand? (cs : List Char) : Option Command :=
  let read := tokensFrom cs.length (cs.takeWhile (· != '\x00'))
  match (statements.split read).filter fun ts => ts.any fun t => !t.isWord ";" with
  | [ts] => (Command.ofTokens ts).toOption
  | _ => none

theorem execute_sole {sql : String} {c : Command} (sole : soleCommand? (strip sql.toList) = some c)
    (s : Store) :
    s.execute sql =
      match s.run c with
      | .error e => (.error e, s)
      | .ok t => (.ok (), t) := by
  have read : statements (trim sql) =
      (statements.split (tokensFrom (strip sql.toList).length
        ((strip sql.toList).takeWhile (· != '\x00')))).filter
          fun ts => ts.any fun t => !t.isWord ";" := by
    simp only [statements, tokens, trim, String.length_ofList, String.toList_ofList]
  unfold execute
  rw [read]
  simp only [soleCommand?] at sole
  split at sole
  · rename_i ts single
    rw [single]
    cases reading : Command.ofTokens ts with
    | error e =>
      rw [reading] at sole
      cases sole
    | ok command =>
      rw [reading] at sole
      cases sole
      rw [runAll, reading]
      dsimp only
      cases s.run c with
      | error e => rfl
      | ok t => rfl
  · cases sole

/-! ### Definitions of tables -/

/-- What a definition describes, if there is nothing wrong with it. -/
def Definition.draft? (definition : Definition) (name : String) : Option Draft :=
  match definition.fault, (Draft.empty name).addAll definition.clauses with
  | none, .ok d =>
    match d.addOptions definition.options with
    | .ok d => if d.check.isOk then some d else none
    | .error _ => none
  | _, _ => none

theorem createTable_fault {definition : Definition} {e : StoreError}
    (fault : definition.fault = some e) (s : Store) (target : Target) :
    ∃ e, s.createTable target false definition = .error e := by
  have stops {α : Type} (r : Except StoreError Unit) (f : Unit → Except StoreError α)
      (fails : ∀ a, ∃ e, f a = .error e) : ∃ e, (r >>= f) = .error e := by
    cases r with
    | error e => exact ⟨e, rfl⟩
    | ok a => exact fails a
  unfold createTable
  refine stops _ _ fun _ => ?_
  split
  · exact ⟨_, rfl⟩
  · split
    · exact ⟨_, rfl⟩
    · split
      · exact ⟨_, rfl⟩
      · cases (Draft.empty target.text).addAll definition.clauses with
        | error e => exact ⟨e, rfl⟩
        | ok d =>
          rw [fault]
          exact ⟨e, rfl⟩

theorem createTable_of_draft? {definition : Definition} {target : Target} {d : Draft}
    (described : definition.draft? target.text = some d) (own : target.schema = none)
    (free : isReservedName target.text = false) (s : Store) :
    s.createTable target false definition =
      if s.hasTable target.text then .error (.tableExists target.written)
      else if s.hasIndex target.text then .error (.namedLikeIndex target.text)
      else .ok (s.addTable d definition.text) := by
  unfold Definition.draft? at described
  unfold createTable Target.checkSchema
  rw [own]
  split at described
  · rename_i drafted fault read
    split at described
    · rename_i settled options
      split at described
      · rename_i checked
        cases described
        have sound : d.check = .ok () := by
          cases judged : d.check with
          | error e =>
            rw [judged] at checked
            cases checked
          | ok u => rfl
        rw [free, fault, read]
        cases s.hasTable target.text with
        | true => rfl
        | false =>
          cases s.hasIndex target.text with
          | true => rfl
          | false =>
            simp only [bind, Except.bind, Option.map_none, Option.getD_none, options, sound]
            rfl
      · cases described
    · cases described
  · cases described

/-! ### Indexes -/

theorem createIndex_of_members {members : List Member} {named : List (Option String)}
    {target : Target} {t : CatalogTable} {s : Store} (held : s.table? t.name = some t)
    (plain : members.findSome? Member.nulls = none)
    (means : members.mapM (indexMember
      { table := t.name, columns := t.columns.map (·.name), place := .index }) = .ok named)
    (own : target.schema = none) (indexable : isReservedName t.name = false)
    (free : isReservedName target.text = false) (unique : Bool) :
    s.createIndex unique target false t.name members none =
      if s.hasTable target.text then .error (.namedLikeTable target.text)
      else if s.hasIndex target.text then .error (.indexExists target.text)
      else .ok (s.updateTable t.name fun t =>
        { t with
          indexes := t.indexes ++
            [{ name := target.text, unique, origin := .statement, members := named }] }) := by
  have declared : s.declaredName? t.name = some t.name := by
    rw [declaredName?, held]
    rfl
  unfold createIndex Target.checkSchema
  simp only [plain, own, declared, bind, Except.bind, indexable, free]
  cases s.hasTable target.text with
  | true => rfl
  | false =>
    cases s.hasIndex target.text with
    | true => rfl
    | false =>
      simp only [held, Option.map_some, Option.getD_some, means, Bool.false_eq_true, if_false]
      rfl

/-! ### Tables under a name -/

theorem hasTable_absent {s : Store} {name : String} (absent : s.table? name = none) :
    s.hasTable name = false := by
  rw [hasTable, absent]
  rfl

theorem table?_addTable {s : Store} {name : String} (absent : s.table? name = none) {d : Draft}
    (named : d.name = name) (definition : String) :
    (s.addTable d definition).table? name = some (d.table definition) := by
  have here : sameLetters (d.table definition).name name = true := by
    simp [Draft.table, named, sameLetters]
  unfold addTable table?
  unfold table? at absent
  simp only [List.append_assoc, List.find?_append, absent, Option.none_or, List.singleton_append,
    List.find?_cons, here]

theorem table?_updateTable {s : Store} {t : CatalogTable} {f : CatalogTable → CatalogTable}
    (held : s.table? t.name = some t) (keeps : ∀ t, (f t).name = t.name) :
    (s.updateTable t.name f).table? t.name = some (f t) := by
  have same (u : CatalogTable) : (if u.name = t.name then f u else u).name = u.name := by
    split
    · exact keeps u
    · rfl
  unfold updateTable table?
  unfold table? at held
  rw [List.find?_map]
  simp only [Function.comp_def, same, held, Option.map_some, if_true]

end SchemaShift.Store

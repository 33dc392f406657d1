import Mathlib.Data.List.Basic
import Mathlib.Data.List.Pairwise
import SchemaShift.Proofs.Ddl.IndexNamespace
import SchemaShift.Proofs.Diff.Walk

/-!
# Index names that move between tables

A diff lets each table of the left snapshot give up index names and take new ones, in the order in
which that snapshot has the tables, and creates the tables of the right one alone at the end. What
a table has given up by then is free. So the order is right as long as no table takes over a name
from one behind it.
-/

namespace SchemaShift

/-! ### Names of indexes in a snapshot -/

namespace Table

def indexNames (t : Table) : List String :=
  secondaryNames t.indexes.values

/-- Neither the tables nor any of their indexes share a name. -/
structure Apart (t u : Table) : Prop where
  name : t.name ≠ u.name
  indexes : ∀ name ∈ t.indexNames, name ∉ u.indexNames

theorem Apart.symm {t u : Table} (apart : t.Apart u) : u.Apart t :=
  ⟨apart.name.symm, fun name theirs own => apart.indexes name own theirs⟩

/-- The table has an index under a name that is that of an index of `other`. -/
def TakesFrom (t other : Table) : Prop :=
  ∃ name ∈ creatableNames t.indexes.values, name ∈ other.indexNames

instance (t other : Table) : Decidable (t.TakesFrom other) :=
  inferInstanceAs (Decidable (∃ name ∈ creatableNames t.indexes.values, name ∈ other.indexNames))

theorem Keyed.mem_indexNames {t : Table} (keyed : t.Keyed) {name : String} :
    name ∈ t.indexNames ↔ ∃ i, t.indexes.find? name = some i ∧ i.kind ≠ .primary :=
  keyed.mem_secondaryNames

theorem Keyed.mem_creatableNames {t : Table} (keyed : t.Keyed) {name : String} :
    name ∈ creatableNames t.indexes.values ↔
      ∃ i, t.indexes.find? name = some i ∧ (i.kind = .unique ∨ i.kind = .normal) := by
  rw [SchemaShift.mem_creatableNames]
  constructor
  · rintro ⟨i, member, creatable, rfl⟩
    obtain ⟨name, found⟩ := (NameMap.mem_values _).1 member
    obtain rfl := keyed.index_name found
    exact ⟨i, found, creatable⟩
  · rintro ⟨i, found, creatable⟩
    exact ⟨i, (NameMap.mem_values _).2 ⟨name, found⟩, creatable, keyed.index_name found⟩

theorem mem_creatableNames_added {old new : Table} (hn : new.Keyed) {name : String} :
    name ∈ creatableNames (old.changesTo new).addedIndexes ↔
      ∃ i, new.indexes.find? name = some i ∧ (i.kind = .unique ∨ i.kind = .normal) ∧
        ∀ previous, old.indexes.find? name = some previous → previous.differs i = true := by
  rw [SchemaShift.mem_creatableNames]
  constructor
  · rintro ⟨i, listed, creatable, rfl⟩
    obtain ⟨name, wanted, differs⟩ := mem_newIndexes.1 listed
    obtain rfl := hn.index_name wanted
    exact ⟨i, wanted, creatable, differs⟩
  · rintro ⟨i, wanted, creatable, differs⟩
    exact ⟨i, mem_newIndexes.2 ⟨name, wanted, differs⟩, creatable, hn.index_name wanted⟩

end Table

namespace Snapshot

/-- Tables have different names, and so have indexes, also those of different tables. -/
structure OneNamespace (s : Snapshot) : Prop where
  tables : (s.tables.map (·.name)).Nodup
  keyed : ∀ t ∈ s.tables, t.Keyed
  indexes : (s.tables.flatMap (·.indexNames)).Nodup

instance (s : Snapshot) : Decidable s.OneNamespace :=
  decidable_of_iff ((s.tables.map (·.name)).Nodup ∧ (∀ t ∈ s.tables, t.Keyed) ∧
      (s.tables.flatMap (·.indexNames)).Nodup)
    ⟨fun ⟨tables, keyed, indexes⟩ => { tables, keyed, indexes },
      fun one => ⟨one.tables, one.keyed, one.indexes⟩⟩

/-- The table of each index, before anything is changed. -/
def holders (s : Snapshot) : Holders := fun name =>
  (s.tables.find? fun t => decide (name ∈ t.indexNames)).map (·.name)

theorem OneNamespace.pairwise {s : Snapshot} (one : s.OneNamespace) :
    s.tables.Pairwise Table.Apart := by
  have names := List.pairwise_map.1 one.tables
  have indexes := (List.nodup_flatMap.1 one.indexes).2
  exact names.imp₂ (fun _ _ name disjoint => ⟨name, fun _ own theirs => disjoint own theirs⟩)
    indexes

theorem OneNamespace.apart {s : Snapshot} (one : s.OneNamespace) {t u : Table}
    (ht : t ∈ s.tables) (hu : u ∈ s.tables) (different : t ≠ u) : t.Apart u := by
  have : Std.Symm Table.Apart := ⟨fun _ _ apart => apart.symm⟩
  exact one.pairwise.forall ht hu different

theorem OneNamespace.same_table {s : Snapshot} (one : s.OneNamespace) {t u : Table}
    (ht : t ∈ s.tables) (hu : u ∈ s.tables) {name : String} (first : name ∈ t.indexNames)
    (second : name ∈ u.indexNames) : t = u := by
  by_contra different
  exact (one.apart ht hu different).indexes name first second

theorem OneNamespace.holders_iff {s : Snapshot} (one : s.OneNamespace) {name holder : String} :
    s.holders name = some holder ↔ ∃ t ∈ s.tables, t.name = holder ∧ name ∈ t.indexNames := by
  rw [holders, Option.map_eq_some_iff]
  constructor
  · rintro ⟨t, found, rfl⟩
    have held := List.find?_some found
    exact ⟨t, List.mem_of_find?_eq_some found, rfl, by simpa using held⟩
  · rintro ⟨t, member, rfl, held⟩
    cases found : s.tables.find? fun t => decide (name ∈ t.indexNames) with
    | none =>
      have absent := List.find?_eq_none.1 found t member
      simp [held] at absent
    | some u =>
      have other := List.find?_some found
      have same := one.same_table (List.mem_of_find?_eq_some found) member (by simpa using other)
        held
      exact ⟨u, rfl, congrArg Table.name same⟩

end Snapshot

/-! ### From table to table -/

/-- Where a run through the tables stands. The tables of `waiting` still have all their indexes,
and any other name is that of an index of a table in `settled`. -/
structure Between (held : Holders) (waiting settled : List Table) : Prop where
  untouched : ∀ t ∈ waiting, ∀ name ∈ t.indexNames, held name = some t.name
  known : ∀ name holder, held name = some holder →
    ∃ t ∈ waiting ++ settled, t.name = holder ∧ name ∈ t.indexNames

/-- The names that a table gives up and takes on its way from `old` to `new`. -/
structure Replaces (old new : Table) (gone made : List String) : Prop where
  own : ∀ name ∈ gone, name ∈ old.indexNames
  kept : ∀ name ∈ old.indexNames, name ∉ gone → name ∈ new.indexNames
  wanted : ∀ name ∈ made, name ∈ creatableNames new.indexes.values
  stayed : ∀ name ∈ creatableNames new.indexes.values, name ∉ made → name ∈ old.indexNames
  renewed : ∀ name ∈ made, name ∈ old.indexNames → name ∈ gone

theorem creatable_subset (indexes : List Index) :
    creatableNames indexes ⊆ secondaryNames indexes := by
  intro name member
  obtain ⟨i, listed, creatable, named⟩ := mem_creatableNames.1 member
  refine mem_secondaryNames.2 ⟨i, listed, ?_, named⟩
  rcases creatable with kind | kind <;> simp [kind]

theorem changesTo_replaces {old new : Table} (ho : old.Keyed) (hn : new.Keyed) :
    Replaces old new (secondaryNames (old.changesTo new).deletedIndexes)
      (creatableNames (old.changesTo new).addedIndexes) := by
  constructor
  · intro name deleted
    obtain ⟨previous, found, secondary, -⟩ := (Table.mem_secondaryNames_deleted ho).1 deleted
    exact ho.mem_indexNames.2 ⟨previous, found, secondary⟩
  · intro name held undeleted
    obtain ⟨previous, found, secondary⟩ := ho.mem_indexNames.1 held
    by_contra absent
    refine undeleted ((Table.mem_secondaryNames_deleted ho).2
      ⟨previous, found, secondary, fun i wanted => ?_⟩)
    by_contra alike
    have kind := ((Index.differs_eq_false_iff previous i).1 (by simpa using alike)).kind
    exact absent (hn.mem_indexNames.2 ⟨i, wanted, kind ▸ secondary⟩)
  · intro name added
    obtain ⟨i, wanted, creatable, -⟩ := (Table.mem_creatableNames_added hn).1 added
    exact hn.mem_creatableNames.2 ⟨i, wanted, creatable⟩
  · intro name wanted unadded
    obtain ⟨i, wanted, creatable⟩ := hn.mem_creatableNames.1 wanted
    by_contra absent
    refine unadded ((Table.mem_creatableNames_added hn).2
      ⟨i, wanted, creatable, fun previous found => ?_⟩)
    by_contra alike
    have kind := ((Index.differs_eq_false_iff previous i).1 (by simpa using alike)).kind
    refine absent (ho.mem_indexNames.2 ⟨previous, found, ?_⟩)
    rcases creatable with unique | normal
    · simp [kind, unique]
    · simp [kind, normal]
  · intro name added held
    obtain ⟨i, wanted, -, differs⟩ := (Table.mem_creatableNames_added hn).1 added
    obtain ⟨previous, found, secondary⟩ := ho.mem_indexNames.1 held
    refine (Table.mem_secondaryNames_deleted ho).2 ⟨previous, found, secondary, ?_⟩
    intro j same
    rw [wanted] at same
    cases same
    exact differs previous found

/-- A new table comes in the place of one without indexes. -/
theorem fresh_replaces (t : Table) :
    Replaces { t with indexes := .empty } t [] (creatableNames t.indexes.values) := by
  constructor
  · intro name gone
    cases gone
  · intro name held
    cases held
  · exact fun name made => made
  · intro name wanted unmade
    exact absurd wanted unmade
  · intro name _ held
    cases held

/-! ### The statements for one table -/

/-- What is sent for a table of the left snapshot, given its state in the right one. -/
def turn (t : Table) (target : Option Table) : List Statement :=
  (tableChange (some t) target).toList.flatMap Dialect.sqlite.emit

theorem turn_none (t : Table) : turn t none = Dialect.sqlite.emit (.dropTable t) := by
  simp [turn, tableChange]

/-- An unchanged table has an empty change set, for which nothing is sent either. -/
theorem turn_some (t d : Table) : turn t (some d) = Sqlite.alterTable d.name (t.changesTo d) := by
  unfold turn tableChange
  by_cases changed : t.changed d
  · simp only [changed, if_true, Option.toList_some, List.flatMap_singleton]
    rfl
  · have empty := (Table.isEmpty_changesTo_iff t d).2 (by simpa using changed)
    simp only [ChangeSet.isEmpty, Bool.and_eq_true, List.isEmpty_iff, Option.isNone_iff_eq_none]
      at empty
    obtain ⟨⟨⟨⟨columns, forms⟩, added⟩, deleted⟩, options⟩ := empty
    simp [changed, Sqlite.alterTable, columns, forms, added, deleted, options]

/-- No table takes, on its way into the right snapshot, a name from one behind it. -/
def Snapshot.TakesNoneAhead (dst : Snapshot) : List Table → List Table → Prop
  | [], _ => True
  | t :: ts, books =>
    (∀ d ∈ dst.table? t.name, ∀ u ∈ ts ++ books, ¬d.TakesFrom u) ∧ dst.TakesNoneAhead ts books

namespace Between

variable {held : Holders} {t d : Table} {waiting settled : List Table}

theorem dropped (between : Between held (t :: waiting) settled)
    (names : ∀ u ∈ waiting, u.name ≠ t.name) :
    Between (held.after (Dialect.sqlite.emit (.dropTable t))) waiting settled := by
  rw [Holders.after_dropTable]
  constructor
  · intro u member name has
    have holder := between.untouched u (List.mem_cons_of_mem t member) name has
    have other := names u member
    simp [holder, other]
  · intro name holder found
    split at found
    · cases found
    · rename_i elsewhere
      obtain ⟨u, member, named, has⟩ := between.known name holder found
      refine ⟨u, ?_, named, has⟩
      rcases List.mem_cons.1 member with rfl | member
      · exact absurd (named ▸ found) elsewhere
      · exact member

/-- The names that a table takes are free exactly if no table that waits has one of them. -/
theorem free_iff {gone made : List String} (between : Between held (t :: waiting) settled)
    (replaces : Replaces t d gone made)
    (alone : ∀ u ∈ waiting, ∀ name ∈ t.indexNames, name ∉ u.indexNames)
    (apart : ∀ u ∈ settled, ∀ name ∈ d.indexNames, name ∉ u.indexNames) :
    (∀ name ∈ made, name ∈ gone ∨ held name = none) ↔ ∀ u ∈ waiting, ¬d.TakesFrom u := by
  constructor
  · rintro free u member ⟨name, wanted, has⟩
    have lost : name ∉ t.indexNames := fun own => alone u member name own has
    have made : name ∈ made := by
      by_contra unmade
      exact lost (replaces.stayed name wanted unmade)
    rcases free name made with gone | free
    · exact lost (replaces.own name gone)
    · rw [between.untouched u (List.mem_cons_of_mem t member) name has] at free
      cases free
  · intro leaves name made
    have wanted := replaces.wanted name made
    by_cases own : name ∈ t.indexNames
    · exact .inl (replaces.renewed name made own)
    · refine .inr (Option.eq_none_iff_forall_ne_some.2 fun holder found => ?_)
      obtain ⟨u, member, -, has⟩ := between.known name holder found
      rcases List.mem_append.1 member with waits | settled
      · rcases List.mem_cons.1 waits with rfl | waits
        · exact own has
        · exact leaves u waits ⟨name, wanted, has⟩
      · exact apart u settled name (creatable_subset _ wanted) has

theorem replaced {gone made : List String} (between : Between held (t :: waiting) settled)
    (replaces : Replaces t d gone made) (named : d.name = t.name)
    (alone : ∀ u ∈ waiting, ∀ name ∈ t.indexNames, name ∉ u.indexNames)
    (leaves : ∀ u ∈ waiting, ¬d.TakesFrom u) :
    Between
      (fun name => if name ∈ made then some d.name else if name ∈ gone then none else held name)
      waiting (settled ++ [d]) := by
  constructor
  · intro u member name has
    have unmade : name ∉ made := fun made => leaves u member ⟨name, replaces.wanted name made, has⟩
    have stays : name ∉ gone := fun gone => alone u member name (replaces.own name gone) has
    rw [if_neg unmade, if_neg stays]
    exact between.untouched u (List.mem_cons_of_mem t member) name has
  · intro name holder found
    split at found
    · rename_i made
      refine ⟨d, by simp, Option.some.inj found, ?_⟩
      exact creatable_subset _ (replaces.wanted name made)
    · split at found
      · cases found
      · rename_i stays
        obtain ⟨u, member, called, has⟩ := between.known name holder found
        rcases List.mem_append.1 member with waits | settled
        · rcases List.mem_cons.1 waits with rfl | waits
          · exact ⟨d, by simp, named.trans called, replaces.kept name has stays⟩
          · exact ⟨u, by simp [waits], called, has⟩
        · exact ⟨u, by simp [settled], called, has⟩

/-- The diff of a table against the one of its name, if there is one still. -/
theorem free_turn_iff {target : Option Table} (between : Between held (t :: waiting) settled)
    (keyed : t.Keyed) (wanted : ∀ d ∈ target, d.name = t.name ∧ d.Keyed)
    (alone : ∀ u ∈ waiting, t.Apart u) (apart : ∀ d ∈ target, ∀ u ∈ settled, d.Apart u) :
    held.Free (turn t target) ↔ ∀ d ∈ target, ∀ u ∈ waiting, ¬d.TakesFrom u := by
  cases target with
  | none =>
    rw [turn_none, iff_true_intro (Holders.free_dropTable held t)]
    simp
  | some d =>
    obtain ⟨named, keyed'⟩ := wanted d rfl
    have replaces := changesTo_replaces keyed keyed'
    rw [turn_some, Holders.free_alterTable held _ (t.nodup_newIndexes keyed'),
      between.free_iff replaces (fun u member => (alone u member).indexes)
        (fun u member => (apart d rfl u member).indexes)]
    simp

theorem turn {target : Option Table} (between : Between held (t :: waiting) settled)
    (keyed : t.Keyed) (wanted : ∀ d ∈ target, d.name = t.name ∧ d.Keyed)
    (alone : ∀ u ∈ waiting, t.Apart u)
    (leaves : ∀ d ∈ target, ∀ u ∈ waiting, ¬d.TakesFrom u) :
    Between (held.after (SchemaShift.turn t target)) waiting (settled ++ target.toList) := by
  cases target with
  | none =>
    rw [turn_none]
    simpa using between.dropped fun u member => (alone u member).name.symm
  | some d =>
    obtain ⟨named, keyed'⟩ := wanted d rfl
    rw [turn_some, Holders.after_alterTable]
    exact between.replaced (changesTo_replaces keyed keyed') named
      (fun u member => (alone u member).indexes) (leaves d rfl)

/-- A table that is to be made has no indexes yet. -/
theorem blank (between : Between held waiting settled) (d : Table) :
    Between held ({ d with indexes := .empty } :: waiting) settled := by
  constructor
  · intro u member name has
    rcases List.mem_cons.1 member with rfl | member
    · cases has
    · exact between.untouched u member name has
  · intro name holder found
    obtain ⟨u, member, rest⟩ := between.known name holder found
    exact ⟨u, List.mem_cons_of_mem _ member, rest⟩

theorem free_create_iff (between : Between held waiting settled) (keyed : d.Keyed)
    (apart : ∀ u ∈ settled, d.Apart u) :
    held.Free (Dialect.sqlite.emit (.createTable d)) ↔ ∀ u ∈ waiting, ¬d.TakesFrom u := by
  rw [Holders.free_createTable held keyed,
    ← (between.blank d).free_iff (fresh_replaces d) (fun u _ name has => nomatch has)
      (fun u member => (apart u member).indexes)]
  simp

theorem create (between : Between held waiting settled) (leaves : ∀ u ∈ waiting, ¬d.TakesFrom u) :
    Between (held.after (Dialect.sqlite.emit (.createTable d))) waiting (settled ++ [d]) := by
  have made := (between.blank d).replaced (fresh_replaces d) rfl (fun u _ name has => nomatch has)
    leaves
  rw [Holders.after_createTable]
  simpa using made

/-- All tables of the left snapshot in their order, with `books` left alone. -/
theorem run {dst : Snapshot} (hd : dst.OneNamespace) {books : List Table} (ts : List Table)
    {held : Holders} {settled : List Table} (between : Between held (ts ++ books) settled)
    (keyed : ∀ t ∈ ts, t.Keyed) (apart : (ts ++ books).Pairwise Table.Apart)
    (done : ∀ u ∈ settled, u ∈ dst.tables ∧ ∀ t ∈ ts, u.name ≠ t.name) :
    (held.Free (ts.flatMap fun t => SchemaShift.turn t (dst.table? t.name)) ↔
        dst.TakesNoneAhead ts books) ∧
      (dst.TakesNoneAhead ts books →
        Between (held.after (ts.flatMap fun t => SchemaShift.turn t (dst.table? t.name))) books
          (settled ++ ts.flatMap fun t => (dst.table? t.name).toList)) := by
  -- `Between` holds before each table; it goes on to the next one if this one leaves the names of
  -- those behind it alone.
  induction ts generalizing held settled with
  | nil =>
    refine ⟨iff_of_true trivial trivial, fun _ => ?_⟩
    simpa [Holders.after] using between
  | cons t ts ih =>
    obtain ⟨alone, others⟩ := List.pairwise_cons.1 apart
    have wanted : ∀ d ∈ dst.table? t.name, d ∈ dst.tables ∧ d.name = t.name :=
      fun d found => Snapshot.table?_some found
    have wanted' : ∀ d ∈ dst.table? t.name, d.name = t.name ∧ d.Keyed :=
      fun d found => ⟨(wanted d found).2, hd.keyed d (wanted d found).1⟩
    have apart' : ∀ d ∈ dst.table? t.name, ∀ u ∈ settled, d.Apart u := by
      intro d found u member
      obtain ⟨there, named⟩ := wanted d found
      obtain ⟨right, other⟩ := done u member
      refine hd.apart there right fun same => ?_
      exact other t List.mem_cons_self (same ▸ named)
    have free := free_turn_iff between (keyed t List.mem_cons_self) wanted' alone apart'
    have next (leaves : ∀ d ∈ dst.table? t.name, ∀ u ∈ ts ++ books, ¬d.TakesFrom u) := by
      refine ih (between.turn (keyed t List.mem_cons_self) wanted' alone leaves)
        (fun u member => keyed u (List.mem_cons_of_mem t member)) others fun u member => ?_
      rcases List.mem_append.1 member with before | now
      · obtain ⟨right, other⟩ := done u before
        exact ⟨right, fun v member => other v (List.mem_cons_of_mem t member)⟩
      · obtain ⟨right, named⟩ := wanted u (Option.mem_toList.1 now)
        refine ⟨right, fun v member => ?_⟩
        exact named ▸ (alone v (List.mem_append_left books member)).name
    rw [List.flatMap_cons, List.flatMap_cons, Holders.free_append, free, Holders.after_append,
      Snapshot.TakesNoneAhead, ← List.append_assoc]
    exact ⟨and_congr_right fun leaves => (next leaves).1, fun ahead => (next ahead.1).2 ahead.2⟩

/-- The tables that only the right snapshot has. -/
theorem free_createAll_iff {waiting : List Table} (ds : List Table) {held : Holders}
    {settled : List Table} (between : Between held waiting settled) (keyed : ∀ d ∈ ds, d.Keyed)
    (apart : ds.Pairwise Table.Apart) (new : ∀ d ∈ ds, ∀ u ∈ settled, d.Apart u) :
    held.Free (ds.flatMap fun d => Dialect.sqlite.emit (.createTable d)) ↔
      ∀ d ∈ ds, ∀ u ∈ waiting, ¬d.TakesFrom u := by
  induction ds generalizing held settled with
  | nil => simp [Holders.Free]
  | cons d ds ih =>
    obtain ⟨first, rest⟩ := List.forall_mem_cons.1 keyed
    obtain ⟨alone, others⟩ := List.pairwise_cons.1 apart
    obtain ⟨own, theirs⟩ := List.forall_mem_cons.1 new
    rw [List.flatMap_cons, Holders.free_append, free_create_iff between first own,
      List.forall_mem_cons]
    refine and_congr_right fun leaves => ih (between.create leaves) rest others ?_
    intro e member u settled
    rcases List.mem_append.1 settled with before | now
    · exact theirs e member u before
    · obtain rfl := List.mem_singleton.1 now
      exact (alone e member).symm

end Between

/-! ### The whole diff -/

namespace Snapshot

/-- Names of indexes only go to tables that come later in the left snapshot, to new ones, and
never away from the bookkeeping table. -/
structure HandsDown (src dst : Snapshot) : Prop where
  order : src.tracked.Pairwise fun t later => ∀ d ∈ dst.table? t.name, ¬d.TakesFrom later
  books : ∀ d ∈ dst.tracked, ∀ b ∈ src.tablesNamed bookkeepingName, ¬d.TakesFrom b

instance (src dst : Snapshot) : Decidable (src.HandsDown dst) :=
  decidable_of_iff
    ((src.tracked.Pairwise fun t later => ∀ d ∈ dst.table? t.name, ¬d.TakesFrom later) ∧
      ∀ d ∈ dst.tracked, ∀ b ∈ src.tablesNamed bookkeepingName, ¬d.TakesFrom b)
    ⟨fun ⟨order, books⟩ => { order, books }, fun hands => ⟨hands.order, hands.books⟩⟩

theorem takesNoneAhead_iff {dst : Snapshot} {ts books : List Table} :
    dst.TakesNoneAhead ts books ↔
      (ts.Pairwise fun t later => ∀ d ∈ dst.table? t.name, ¬d.TakesFrom later) ∧
        ∀ t ∈ ts, ∀ d ∈ dst.table? t.name, ∀ b ∈ books, ¬d.TakesFrom b := by
  induction ts with
  | nil => simp [TakesNoneAhead]
  | cons t ts ih =>
    rw [TakesNoneAhead, ih, List.pairwise_cons, List.forall_mem_cons]
    constructor
    · rintro ⟨leaves, order, others⟩
      refine ⟨⟨fun u member d found => ?_, order⟩, fun d found b member => ?_, others⟩
      · exact leaves d found u (List.mem_append_left books member)
      · exact leaves d found b (List.mem_append_right ts member)
    · rintro ⟨⟨first, order⟩, own, others⟩
      refine ⟨fun d found u member => ?_, order, others⟩
      rcases List.mem_append.1 member with later | book
      · exact first u later d found
      · exact own d found u book

/-- The bookkeeping table is looked out for once for each table of the right snapshot, be it new
or not. -/
theorem handsDown_iff {src dst : Snapshot} (hd : (dst.tables.map (·.name)).Nodup) :
    src.HandsDown dst ↔
      dst.TakesNoneAhead src.tracked (src.tablesNamed bookkeepingName) ∧
        ∀ d ∈ dst.tracked.filter fun d => (src.table? d.name).isNone,
          ∀ b ∈ src.tablesNamed bookkeepingName, ¬d.TakesFrom b := by
  rw [takesNoneAhead_iff]
  constructor
  · rintro ⟨order, books⟩
    refine ⟨⟨order, fun t member d found => ?_⟩, fun d fresh => ?_⟩
    · obtain ⟨right, named⟩ := table?_some found
      exact books d (mem_tracked.2 ⟨right, named ▸ (mem_tracked.1 member).2⟩)
    · exact books d (List.mem_filter.1 fresh).1
  · rintro ⟨⟨order, held⟩, fresh⟩
    refine ⟨order, fun d member => ?_⟩
    obtain ⟨right, tracked⟩ := mem_tracked.1 member
    cases left : src.table? d.name with
    | none => exact fresh d (List.mem_filter.2 ⟨member, by simp [left]⟩)
    | some t =>
      obtain ⟨there, named⟩ := table?_some left
      exact held t (mem_tracked.2 ⟨there, named ▸ tracked⟩) d (named ▸ table?_of_mem hd right)

theorem emitAll_changesTo (src dst : Snapshot) :
    ∃ schema, (∀ s ∈ schema, Holders.Silent s) ∧
      Dialect.sqlite.emitAll (src.changesTo dst) =
        schema ++ ((src.tracked.flatMap fun t => turn t (dst.table? t.name)) ++
          (dst.tracked.filter fun d => (src.table? d.name).isNone).flatMap fun d =>
            Dialect.sqlite.emit (.createTable d)) := by
  refine ⟨Dialect.sqlite.emitAll
    (if src.options = dst.options then [] else [.alterSchema src.name dst.options]), ?_, ?_⟩
  · split
    · exact fun s listed => nomatch listed
    · exact List.forall_mem_singleton.2 (Holders.silent_of_none rfl)
  · simp only [Dialect.emitAll, changesTo, List.flatMap_append, List.append_assoc,
      List.filterMap_eq_flatMap_toList, List.flatMap_assoc]
    simp [turn, tableChange]

theorem between_start {s : Snapshot} (one : s.OneNamespace) :
    Between s.holders (s.tracked ++ s.tablesNamed bookkeepingName) [] := by
  constructor
  · intro t member name has
    refine one.holders_iff.2 ⟨t, ?_, rfl, has⟩
    rcases List.mem_append.1 member with tracked | books
    · exact (mem_tracked.1 tracked).1
    · exact (mem_tablesNamed.1 books).1
  · intro name holder found
    obtain ⟨t, member, rest⟩ := one.holders_iff.1 found
    refine ⟨t, ?_, rest⟩
    by_cases books : t.name = bookkeepingName
    · simp [mem_tablesNamed, member, books]
    · simp [mem_tracked, member, books]

theorem OneNamespace.pairwise_tracked {s : Snapshot} (one : s.OneNamespace) :
    (s.tracked ++ s.tablesNamed bookkeepingName).Pairwise Table.Apart := by
  have within : ∀ p : Table → Bool, (s.tables.filter p).Pairwise Table.Apart :=
    fun p => one.pairwise.filter p
  refine List.pairwise_append.2 ⟨within _, within _, fun t tracked b books => ?_⟩
  obtain ⟨ht, other⟩ := mem_tracked.1 tracked
  obtain ⟨hb, named⟩ := mem_tablesNamed.1 books
  exact one.apart ht hb fun same => other (same ▸ named)

/-- Each index finds its name free when it is created, as SQLite has it. -/
theorem indexNames_free_iff {src dst : Snapshot} (hs : src.OneNamespace) (hd : dst.OneNamespace) :
    src.holders.Free (Dialect.sqlite.emitAll (src.changesTo dst)) ↔ src.HandsDown dst := by
  obtain ⟨schema, silent, same⟩ := emitAll_changesTo src dst
  obtain ⟨free, next⟩ := Between.run hd src.tracked (between_start hs)
    (fun t member => hs.keyed t (mem_tracked.1 member).1) hs.pairwise_tracked
    (fun u settled => nomatch settled)
  rw [same, Holders.free_append, Holders.after_silent _ silent,
    and_iff_right (Holders.free_silent _ silent), Holders.free_append, free,
    handsDown_iff hd.tables]
  refine and_congr_right fun ahead => ?_
  refine Between.free_createAll_iff _ (next ahead) (fun d fresh => ?_) ?_
    fun d fresh u settled => ?_
  · exact hd.keyed d (mem_tracked.1 (List.mem_filter.1 fresh).1).1
  · exact (hd.pairwise.filter _).filter _
  · obtain ⟨member, absent⟩ := List.mem_filter.1 fresh
    rw [List.nil_append] at settled
    obtain ⟨t, left, found⟩ := List.mem_flatMap.1 settled
    obtain ⟨right, named⟩ := table?_some (Option.mem_toList.1 found)
    refine hd.apart (mem_tracked.1 member).1 right fun alike => ?_
    rw [alike, named, table?_of_mem hs.tables (mem_tracked.1 left).1] at absent
    cases absent

/-- A table with a date, under an index of each of the names. -/
def dated (name : String) (indexes : List String) : Table :=
  indexes.foldl
    (fun t index => t.addIndex (.ofMember (.ofColumn index name "date" 1 true)))
    ((Table.named name).addColumn (.ofType "date" "text"))

def desk (tables : List Table) : Snapshot :=
  { name := "desk"
    options := { charset := "", collation := "" }
    tables }

/-- An index passes on from the drafts to the letters, and one from the dropped memos to the new
notes. -/
theorem desk_indexNames_free :
    let src := desk [dated "drafts" ["by_date"], dated "letters" [], dated "memos" ["by_day"]]
    let dst := desk [dated "notes" ["by_day"], dated "letters" ["by_date"], dated "drafts" []]
    src.OneNamespace ∧ dst.OneNamespace ∧
      (Dialect.sqlite.emitAll (src.changesTo dst)).filterMap (·.createdIndex?) =
        ["by_date", "by_day"] ∧
      src.holders.Free (Dialect.sqlite.emitAll (src.changesTo dst)) := by
  have left : (desk [dated "drafts" ["by_date"], dated "letters" [],
      dated "memos" ["by_day"]]).OneNamespace := by decide +kernel
  have right : (desk [dated "notes" ["by_day"], dated "letters" ["by_date"],
      dated "drafts" []]).OneNamespace := by decide +kernel
  exact ⟨left, right, by decide +kernel, (indexNames_free_iff left right).2 (by decide +kernel)⟩

/-- An index that goes the other way is created while the letters still have it. -/
theorem desk_indexName_taken :
    let src := desk [dated "drafts" [], dated "letters" ["by_date"]]
    let dst := desk [dated "drafts" ["by_date"], dated "letters" []]
    src.OneNamespace ∧ dst.OneNamespace ∧
      (Dialect.sqlite.emitAll (src.changesTo dst)).map (·.sql) =
        ["CREATE INDEX \"by_date\" ON \"drafts\" (\"date\")", "DROP INDEX \"by_date\""] ∧
      src.holders "by_date" = some "letters" ∧
      ¬src.holders.Free (Dialect.sqlite.emitAll (src.changesTo dst)) := by
  decide +kernel

end Snapshot

end SchemaShift

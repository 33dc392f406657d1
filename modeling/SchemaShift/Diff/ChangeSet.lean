import SchemaShift.Diff.Compare

/-!
# Changes of one table

`Table.changesTo old new` lists what makes `old` look like `new`. Columns are added and
modified, never dropped; an index that changed is deleted and added again.
`Table.changed` answers whether there is anything to list.
-/

namespace SchemaShift

structure ColumnChange where
  old : Column
  new : Column
deriving DecidableEq

structure OptionsChange where
  engine : Option String
  collation : Option String
  comment : Option String
deriving DecidableEq

namespace OptionsChange

/-- `b` where it is not `a`. -/
def newValue (a b : String) : Option String :=
  if a = b then none else some b

def between (old new : Table) : OptionsChange :=
  { engine := newValue old.engine new.engine
    collation := newValue old.collation new.collation
    comment := newValue old.comment new.comment }

def charset (o : OptionsChange) : Option String :=
  o.collation.map charsetOf

end OptionsChange

structure ChangeSet where
  addedColumns : List Column
  changedColumns : List ColumnChange
  addedIndexes : List Index
  deletedIndexes : List Index
  options : Option OptionsChange
deriving DecidableEq

namespace ChangeSet

def isEmpty (s : ChangeSet) : Bool :=
  s.addedColumns.isEmpty && s.changedColumns.isEmpty && s.addedIndexes.isEmpty &&
    s.deletedIndexes.isEmpty && s.options.isNone

def replacedIndexes (s : ChangeSet) : List String :=
  (s.deletedIndexes.map (·.name)).filter fun name => s.addedIndexes.any fun i => i.name == name

end ChangeSet

namespace Table

/-- The columns of `new` that `old` lacks. -/
def newColumns (old new : Table) : List Column :=
  new.columns.filter fun c => (old.column? c.name).isNone

/-- The columns of `new` that differ from the column of `old` with their name. -/
def modifiedColumns (old new : Table) : List ColumnChange :=
  new.columns.filterMap fun c =>
    match old.column? c.name with
    | some previous => if previous.differs c then some { old := previous, new := c } else none
    | none => none

/-- The indexes of `new` that `old` lacks or holds in another form. -/
def newIndexes (old new : Table) : List Index :=
  (new.indexes.entries.filter fun (name, index) =>
    match old.indexes.find? name with
    | some previous => previous.differs index
    | none => true).map (·.2)

/-- The indexes of `old` that `new` holds in another form, in the order of `new`. -/
def outdatedIndexes (old new : Table) : List Index :=
  new.indexes.entries.filterMap fun (name, index) =>
    match old.indexes.find? name with
    | some previous => if previous.differs index then some previous else none
    | none => none

/-- The indexes of `old` whose key `new` lacks. -/
def missingIndexes (old new : Table) : List Index :=
  (old.indexes.entries.filter fun (name, _) => !new.indexes.contains name).map (·.2)

def changesTo (old new : Table) : ChangeSet :=
  { addedColumns := old.newColumns new
    changedColumns := old.modifiedColumns new
    addedIndexes := old.newIndexes new
    deletedIndexes := old.outdatedIndexes new ++ old.missingIndexes new
    options := if old.optionsDiffer new then some (.between old new) else none }

/-- Looks for a first change and no further. -/
def changed (old new : Table) : Bool :=
  (new.columns.any fun c =>
    match old.column? c.name with
    | some previous => previous.differs c
    | none => true) ||
  (new.indexes.entries.any fun (name, index) =>
    match old.indexes.find? name with
    | some previous => previous.differs index
    | none => true) ||
  (old.indexes.entries.any fun (name, _) => !new.indexes.contains name) ||
  old.optionsDiffer new

end Table

end SchemaShift

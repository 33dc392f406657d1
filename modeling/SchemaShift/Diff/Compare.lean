import SchemaShift.Schema.Table

/-!
# Differences that count

Two definitions differ when they differ in a property that the comparison looks at. Key
roles, generation expressions and index comments are not looked at.
-/

namespace SchemaShift

def Column.differs (a b : Column) : Bool :=
  a.name != b.name || a.defaultValue != b.defaultValue || a.nullable != b.nullable ||
    a.dataType != b.dataType || a.columnType != b.columnType || a.charLength != b.charLength ||
    a.numericPrecision != b.numericPrecision || a.numericScale != b.numericScale ||
    a.datetimePrecision != b.datetimePrecision || a.comment != b.comment || a.extra != b.extra

def IndexMember.differs (a b : IndexMember) : Bool :=
  a.indexName != b.indexName || a.nonUnique != b.nonUnique || a.position != b.position ||
    a.columnName != b.columnName

/-- The kinds differ, the lengths differ, or two members at one place differ. -/
def Index.differs (a b : Index) : Bool :=
  a.kind != b.kind || a.members.length != b.members.length ||
    (a.members.zip b.members).any fun (x, y) => x.differs y

def Table.optionsDiffer (a b : Table) : Bool :=
  a.engine != b.engine || a.collation != b.collation || a.comment != b.comment

end SchemaShift

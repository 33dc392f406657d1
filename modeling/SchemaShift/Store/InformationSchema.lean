/-!
# The tables of INFORMATION_SCHEMA

The rows in which a MySQL server describes its schemas. Every cell may be null.
-/

namespace SchemaShift.Store

structure SchemaRow where
  schema : Option String
  charset : Option String
  collation : Option String
deriving DecidableEq

structure TableRow where
  schema : Option String
  name : Option String
  type : Option String
  engine : Option String
  collation : Option String
  comment : Option String
deriving DecidableEq

structure ColumnRow where
  schema : Option String
  table : Option String
  ordinal : Option Int64
  name : Option String
  dataType : Option String
  columnType : Option String
  isNullable : Option String
  default? : Option String
  charLength : Option Int64
  numericPrecision : Option Int64
  numericScale : Option Int64
  datetimePrecision : Option Int64
  key : Option String
  extra : Option String
  comment : Option String
  generation : Option String
deriving DecidableEq

structure StatisticsRow where
  schema : Option String
  table : Option String
  index : Option String
  nonUnique : Option Int64
  column : Option String
  position : Option Int64
  method : Option String
  comment : Option String
deriving DecidableEq

structure InformationSchema where
  schemata : List SchemaRow
  tables : List TableRow
  columns : List ColumnRow
  statistics : List StatisticsRow
deriving DecidableEq

end SchemaShift.Store

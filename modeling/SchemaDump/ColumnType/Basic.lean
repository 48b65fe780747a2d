/-
  SchemaDump/ColumnType/Basic.lean
  ================================
  **Column types.**

  A raw type text such as `decimal(10,2) unsigned` has three parts: the base
  name, the arguments between parentheses and the modifiers after them.  This
  file holds the type made of those parts and what follows from its base name;
  `ColumnType/Reading` reads the text and `ColumnType/Values` the arguments.
-/

namespace SchemaDump

/-- The parts of a raw type text that decide how another dialect spells the type. -/
structure ColumnType where
  /-- The words of the base name in small letters, one space between neighbours. -/
  base : String
  /-- The text between the parentheses, without the blanks around it. -/
  arguments : Option String
  unsigned : Bool
deriving DecidableEq, Repr

namespace ColumnType

def isInteger (type : ColumnType) : Bool :=
  ["tinyint", "smallint", "mediumint", "int", "integer", "bigint"].contains type.base

/-- Shapes and places. -/
def isSpatial (type : ColumnType) : Bool :=
  ["geometry", "point", "linestring", "polygon", "multipoint", "multilinestring", "multipolygon",
    "geometrycollection", "geomcollection"].contains type.base

/-- Dates and times. -/
def isTemporal (type : ColumnType) : Bool :=
  ["date", "time", "datetime", "timestamp", "year"].contains type.base

end ColumnType
end SchemaDump

import RecordAccess.Backend
import RecordAccess.Column.Default
import RecordAccess.Column.Native
import RecordAccess.Column.TypeToken
/-!
# Type Mapping

How native column types are mapped to logical types, with the ranges of numbers and the lengths of
text that they imply. Types without a logical counterpart map to nothing.
-/

namespace RecordAccess

/-- The logical type of a column and the limits of its values. -/
structure Mapping where
  logicalType : LogicalType
  length : Option Nat := none
  min : Option Binary64 := none
  max : Option Binary64 := none
  deriving DecidableEq

namespace Mapping

/-- A mapping without limits. -/
def plain (type : LogicalType) : Mapping := { logicalType := type }

/-- A mapping to numbers of a range. -/
def range (type : LogicalType) (low high : Binary64) : Mapping :=
  { logicalType := type, min := some low, max := some high }

/-- A mapping to text of limited length. -/
def text (longest : Nat) : Mapping := { logicalType := .text, length := some longest }

/-- A power less one, rounded at each step. -/
def belowPower (base : Nat) (exponent : Int) : Binary64 :=
  ((Binary64.ofInt base).pow exponent).sub .one

/-- A mapping to integers of a width in bits. -/
def int (bits : Nat) (unsigned : Bool) : Mapping :=
  if unsigned then range .int .zero (belowPower 2 bits)
  else
    let half := (Binary64.ofInt 2).pow ((bits : Int) - 1)
    range .int half.neg (half.sub .one)

/-- A mapping to floating-point numbers up to a largest one. -/
def float (largest : Binary64) (unsigned : Bool) : Mapping :=
  range .float (if unsigned then .zero else largest.neg) largest

/--
A mapping to decimal numbers with `precision` digits, `scale` of them after the point. The exponent
of the bound is the number of digits before the point as a signed number of 32 bits.
-/
def decimal (precision scale : Nat) (unsigned : Bool) : Mapping :=
  let digits := precision - scale
  let high := belowPower 10 ((digits : Int).bmod UInt32.size)
  range (if scale = 0 then .int else .float) (if unsigned then .zero else high.neg) high

/-- The length of text without a declared limit. -/
def longestText : Nat := 2147483647

/-- The length of national text without a declared limit. -/
def longestNationalText : Nat := 1073741823

/-- Whether one of some parts occurs in a type name. -/
def mentions (base : String) (parts : List String) : Bool :=
  parts.any fun part => occursIn part.toList base.toList

/-- The mapping of a type declared in SQLite, where a part of the name decides. -/
def ofSqlite? (token : TypeToken) : Option Mapping :=
  let mentions := mentions token.base
  if token.base.isEmpty || mentions ["blob"] then none
  else if mentions ["bool"] then some (plain .bool)
  else if mentions ["int"] then some (int 64 false)
  else if mentions ["char", "clob", "text"] then some (text (token.args.head?.getD longestText))
  else if mentions ["date", "time"] then some (plain .dateTime)
  else if mentions ["real", "floa", "doub"] then some (float .largest false)
  else if mentions ["decimal", "numeric"] then
    match token.args with
    | [precision] => some (decimal precision 0 token.unsigned)
    | [precision, scale] => some (decimal precision scale token.unsigned)
    | _ => some (float .largest false)
  else none

/-- The declared length of a text column of SQL Server, if it is positive. -/
def declaredLength? (token : TypeToken) (native : NativeColumn) : Option Nat :=
  let declared : Option Int := match native.maxLength with
    | some n => some n.toInt
    | none => token.args.head?.map fun (n : Nat) => (n : Int).bmod UInt64.size
  match declared with
  | some n => if 0 < n then some n.toNat else none
  | none => none

/-- A count of digits as SQL Server reports it, or else as the type spells it. -/
def digitCount (reported : Option Int64) (spelled : Option Nat) (otherwise : Nat) : Nat :=
  match reported with
  | some n => n.toInt.toNat
  | none => spelled.getD otherwise

/-- The mapping of a data type of SQL Server. -/
def ofSqlServer? (token : TypeToken) (native : NativeColumn) : Option Mapping :=
  let unsigned := token.unsigned
  let named (names : List String) : Bool := names.contains token.base
  if named ["bit"] then some (plain .bool)
  else if named ["tinyint"] then some (int 8 true)
  else if named ["smallint"] then some (int 16 unsigned)
  else if named ["int"] then some (int 32 unsigned)
  else if named ["bigint"] then some (int 64 unsigned)
  else if named ["decimal", "numeric"] then
    some (decimal (digitCount native.precision token.args.head? 18)
      (digitCount native.scale (token.args.drop 1).head? 0) unsigned)
  else if named ["real"] then some (float (.ofInt (0xFFFFFF <<< 104 : Nat)) unsigned)
  else if named ["float"] then some (float .largest unsigned)
  else if named ["money"] then some (float (.ofDecimal false 9223372036854775807 (-4)) unsigned)
  else if named ["smallmoney"] then some (float (.ofDecimal false 2147483647 (-4)) unsigned)
  else if named ["char", "varchar", "text"] then
    some (text ((declaredLength? token native).getD longestText))
  else if named ["nchar", "nvarchar", "ntext"] then
    some (text ((declaredLength? token native).getD longestNationalText))
  else if named ["uniqueidentifier"] then some (text 36)
  else if named ["date", "datetime", "datetime2", "smalldatetime", "datetimeoffset", "time"] then
    some (plain .dateTime)
  else none

/-- The mapping of a native column. -/
def ofNative? (backend : Backend) (native : NativeColumn) : Option Mapping := do
  let token ← TypeToken.ofText? native.dataType
  match backend with
  | .sqlite => ofSqlite? token
  | .sqlServer => ofSqlServer? token native

end Mapping

/-- The column that a native column is mapped to. -/
def Column.ofNative? (backend : Backend) (native : NativeColumn) : Option Column := do
  let mapping ← Mapping.ofNative? backend native
  return {
    name := native.name
    logicalType := mapping.logicalType
    length := mapping.length
    min := mapping.min
    max := mapping.max
    initial := native.defaultText.bind (defaultValue? backend mapping.logicalType)
    nativeType := native.dataType }

end RecordAccess

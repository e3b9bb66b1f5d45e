/-! Grouped streams, and the stores that aggregates are kept in. -/

namespace StreamWindow

inductive ColumnType
  | string | bigint | bytes | row
  deriving DecidableEq, Repr

def ColumnType.name : ColumnType → String
  | string => "STRING"
  | bigint => "BIGINT"
  | bytes => "BYTES"
  | row => "ROW"

structure GroupedStream where
  name : String
  keyType : ColumnType
  valueType : ColumnType
  deriving DecidableEq, Repr

/-- How a store is laid out; `any` leaves that to the window. -/
inductive StoreLayout
  | any | keyValue | window | session
  deriving DecidableEq, Repr

def StoreLayout.name : StoreLayout → String
  | any => "any"
  | keyValue => "key-value"
  | window => "window"
  | session => "session"

structure Store where
  name : String
  keyType : ColumnType
  valueType : ColumnType
  layout : StoreLayout := .any
  deriving DecidableEq, Repr

end StreamWindow

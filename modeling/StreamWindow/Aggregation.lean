import StreamWindow.Descriptor
import StreamWindow.Log.Level
import StreamWindow.Stream
import StreamWindow.Text.Quoted

/-! Windowed aggregation operators, and building one for a window over a grouped stream. -/

namespace StreamWindow

structure Aggregation (value aggregate : Type) where
  source : GroupedStream
  descriptor : Descriptor
  initial : aggregate
  fold : String → value → aggregate → aggregate
  store : Store

namespace Aggregation

variable {value aggregate : Type}

def text (operator : Aggregation value aggregate) : String :=
  s!"{operator.source.name} -> aggregate {operator.descriptor.text} -> {operator.store.name}"

def debugText (operator : Aggregation value aggregate) : String :=
  s!"WindowedAggregation \x7b source: {Text.quoted operator.source.name}, " ++
    s!"window: {operator.descriptor.debugText}, store: {Text.quoted operator.store.name} \x7d"

end Aggregation

inductive Mismatch
  | keyType (store stream : ColumnType)
  | storeValues (valueType : ColumnType)
  | streamValues (stream : String) (valueType : ColumnType)
  | layout (found : StoreLayout) (isSession : Bool)
  deriving DecidableEq, Repr

def Mismatch.reason : Mismatch → String
  | keyType store stream =>
      s!"key type {store.name} does not match grouped stream key type {stream.name}"
  | storeValues valueType => s!"value type {valueType.name} cannot hold aggregate rows"
  | streamValues stream valueType =>
      s!"grouped stream {stream} carries {valueType.name} values; " ++
        "only ROW values can be aggregated"
  | layout found isSession =>
      let window := if isSession then "session window" else "time window"
      s!"{found.name} store cannot hold {window} results"

inductive LoweringError
  | unsupportedStore (store : String) (mismatch : Mismatch)
  | invariant (cause : Violation)
  deriving DecidableEq, Repr

def LoweringError.message : LoweringError → String
  | unsupportedStore store mismatch =>
      s!"unsupported materialization for store `{store}`: {mismatch.reason}"
  | invariant cause => s!"window invariant violated during lowering: {cause.message}"

def StoreLayout.suits : StoreLayout → Descriptor → Bool
  | any, _ => true
  | window, .time _ => true
  | session, .session _ => true
  | _, _ => false

def Store.mismatch? (store : Store) (stream : GroupedStream) (descriptor : Descriptor) :
    Option Mismatch :=
  if store.keyType ≠ stream.keyType then some (.keyType store.keyType stream.keyType)
  else if store.valueType ≠ .row then some (.storeValues store.valueType)
  else if stream.valueType ≠ .row then some (.streamValues stream.name stream.valueType)
  else if store.layout.suits descriptor then none
  else some (.layout store.layout descriptor.isSession)

namespace Aggregation

variable {value aggregate : Type}

/-- Builds the operator for a window. A length that no word holds is reported in preference to
a store that does not fit. -/
def build (window : Window) (stream : GroupedStream) (initial : aggregate)
    (fold : String → value → aggregate → aggregate) (store : Store) :
    Except LoweringError (Aggregation value aggregate) :=
  match window.lower with
  | .error cause => .error (.invariant cause)
  | .ok descriptor =>
      match store.mismatch? stream descriptor with
      | some mismatch => .error (.unsupportedStore store.name mismatch)
      | none => .ok { source := stream, descriptor, initial, fold, store }

def builtRecord (window : Window) (operator : Aggregation value aggregate) : LogRecord where
  level := .debug
  target := "sw_core::lower"
  text :=
    s!"lowered {window.text} over {operator.source.name} into {operator.descriptor.text} " ++
      s!"(store={operator.store.name})"

def lower (window : Window) (stream : GroupedStream) (initial : aggregate)
    (fold : String → value → aggregate → aggregate) (store : Store) :
    Logged (Except LoweringError (Aggregation value aggregate)) :=
  match build window stream initial fold store with
  | .ok operator => { outcome := .ok operator, records := [operator.builtRecord window] }
  | .error cause => { outcome := .error cause }

end Aggregation

end StreamWindow

import Std.Data.HashMap
import StreamWindow.Aggregation

/-! Running an aggregation over records. Time windows keep one aggregate for each key and
window; sessions keep one live session for each key. -/

namespace StreamWindow

structure StreamRecord (value : Type) where
  key : String
  timestamp : UInt64
  value : value

variable {value aggregate : Type}

abbrev WindowTable (aggregate : Type) :=
  Std.HashMap (String × WindowBounds) aggregate

namespace WindowTable

def addTo (initial : aggregate) (fold : String → value → aggregate → aggregate)
    (record : StreamRecord value) :
    List WindowBounds → WindowTable aggregate →
      List (WindowBounds × aggregate) × WindowTable aggregate
  | [], table => ([], table)
  | bounds :: rest, table =>
      let kept := table.getD (record.key, bounds) initial
      let updated := fold record.key record.value kept
      let (later, table) := addTo initial fold record rest
        (table.insert (record.key, bounds) updated)
      ((bounds, updated) :: later, table)

def feed (windows : TimeWindows) (initial : aggregate)
    (fold : String → value → aggregate → aggregate) :
    List (StreamRecord value) → WindowTable aggregate →
      List (List (WindowBounds × aggregate)) × WindowTable aggregate
  | [], table => ([], table)
  | record :: records, table =>
      let (updates, table) :=
        addTo initial fold record (windows.windowsFor record.timestamp) table
      let (later, table) := feed windows initial fold records table
      (updates :: later, table)

end WindowTable

structure Session (aggregate : Type) where
  start : UInt64
  finish : UInt64
  aggregate : aggregate

def Session.text (session : Session aggregate) : String :=
  s!"{session.start}..{session.finish}"

abbrev SessionTable (aggregate : Type) :=
  Std.HashMap String (Session aggregate)

namespace SessionTable

/-- The session that a record belongs to: the live one when the record is within the gap, or
else a new one. -/
def join (windows : SessionWindows) (initial : aggregate)
    (fold : String → value → aggregate → aggregate) (live : Option (Session aggregate))
    (record : StreamRecord value) : Session aggregate :=
  let fresh : Session aggregate := ⟨record.timestamp, record.timestamp, initial⟩
  let joined := match live with
    | some session =>
        if windows.merges session.finish record.timestamp then
          { session with
            start := min session.start record.timestamp
            finish := max session.finish record.timestamp }
        else fresh
    | none => fresh
  { joined with aggregate := fold record.key record.value joined.aggregate }

def feed (windows : SessionWindows) (initial : aggregate)
    (fold : String → value → aggregate → aggregate) :
    List (StreamRecord value) → SessionTable aggregate →
      List (Session aggregate) × SessionTable aggregate
  | [], table => ([], table)
  | record :: records, table =>
      let session := join windows initial fold table[record.key]? record
      let (later, table) := feed windows initial fold records (table.insert record.key session)
      (session :: later, table)

end SessionTable

/-- For each record the windows that it falls into, with their aggregates after it. -/
def Aggregation.run (operator : Aggregation value aggregate)
    (records : List (StreamRecord value)) : List (List (String × aggregate)) :=
  match operator.descriptor with
  | .time windows =>
      let (updates, _) := WindowTable.feed windows operator.initial operator.fold records ∅
      updates.map fun row => row.map fun (bounds, aggregate) => (bounds.text, aggregate)
  | .session windows =>
      let (sessions, _) := SessionTable.feed windows operator.initial operator.fold records ∅
      sessions.map fun session => [(session.text, session.aggregate)]

end StreamWindow

import CompactSql.Layout
import CompactSql.Scan

/-!
# Compacting statements

## Main definitions

* `compact` — the compact form of a statement.
* `Event` — what is reported while a statement is compacted.
* `compactEvents` — the events of one statement, in order.
-/

namespace CompactSql

/-- The compact form of a statement. -/
def compact (o : Options) (t : Text) : Text := layout o (scan o.keywordSet t)

/-! ## Events -/

/-- How much detail an event belongs to. -/
inductive Level where
  | debug
  | trace
  deriving DecidableEq, Repr

/-- The name of a level in a log. -/
def Level.name : Level → String
  | debug => "DEBUG"
  | trace => "TRACE"

/-- Something that is reported while a statement is compacted: characters that are left out, at a
position, and the number of tokens once they are all read. -/
inductive Event where
  | dropped (position : Nat) (fault : Fault)
  | scanned (tokens : Nat)
  deriving DecidableEq, Repr

namespace Event

/-- The detail that an event belongs to. -/
def level : Event → Level
  | dropped .. => .trace
  | scanned _ => .debug

/-- The event in words. -/
def message : Event → String
  | dropped _ f => f.message
  | scanned _ => "minifying statement"

/-- The number that an event reports. -/
def number : Event → Nat
  | dropped p _ => p
  | scanned n => n

end Event

/-- What is reported while a statement is compacted. -/
def compactEvents (o : Options) (t : Text) : List Event :=
  (faults o.keywordSet t).map (fun (p, f) => .dropped p f) ++
    [.scanned (scan o.keywordSet t).length]

end CompactSql

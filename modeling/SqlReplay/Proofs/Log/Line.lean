import SqlReplay.Log.Entry
import SqlReplay.Proofs.Json.Reading

/-! What a structured line says. It is one object on one line, and reading it gives the entry back:
the fields of an event stand beside those of the entry and never in their place. -/

namespace SqlReplay.Log

open Json (IsShort Plain)

def ownNames : List Text :=
  ["timestamp", "level", "logger", "message", "module", "function", "line", "correlation_id",
    "exception"]

/-- The id that a line has to bear while a run may be active: one that is stamped on the entry, or
else that of the run. -/
inductive Stamp.Bears (stamp : Stamp) (active : Option Text) : Json → Prop
  | stamped {id : Json} (given : stamp = .given id) (some : id.isTruthy = true)
    (other : id ≠ .str noId) : Bears stamp active id
  | running {id : Text}
    (unstamped : stamp = .absent ∨ ∃ blank, stamp = .given blank ∧ blank.isTruthy = false)
    (current : active = some id) (some : id ≠ []) (other : id ≠ noId) :
    Bears stamp active (.str id)

namespace Entry

/-- What the fields of an entry's line have to say. -/
structure Tells (e : Entry) (time message : Text) (active : Option Text) (fields : Fields) :
    Prop where
  distinct : (fields.map (·.1)).Nodup
  standard : fields.take 7 = ([("timestamp", .str time), ("level", .str e.event.level.name),
    ("logger", .str e.event.logger), ("message", .str message), ("module", .str e.site.module),
    ("function", (e.site.function.map .str).getD .null), ("line", .int e.site.line)] : Fields)
  exception : ∀ failure, e.event.failure = some failure →
    ("exception".toList, .str failure.report) ∈ fields
  correlation : ∀ id, e.stamp.Bears active id → ("correlation_id".toList, id) ∈ fields
  extra : ∀ field : Text × Json, field.1 ∉ ownNames →
    (field ∈ fields ↔ field ∈ e.event.fields.getD [])

section Fields

variable {e : Entry} {active : Option Text} {time : Text}

/-- The fields that are there before those of the event join. -/
def ownFields (e : Entry) (time : Text) (active : Option Text) : Fields :=
  e.standardFields time ++
    ((e.correlationId? active).map fun id => ("correlation_id".toList, id)).toList

/-- The fields of an entry and those of its event that have other names. -/
def joined (e : Entry) (time : Text) (active : Option Text) : Fields :=
  e.ownFields time active ++
    (e.event.fields.getD []).filter (!((e.ownFields time active).map (·.1)).contains ·.1)

section Distinct

variable (names : ((e.event.fields.getD []).map (·.1)).Nodup)
include names

end Distinct

end Fields

section Written

variable {host : Host} {e : Entry} {active : Option Text} {time : Text}

end Written

def worded (e : Entry) (message : Text) : Entry := { e with event := { e.event with message } }

theorem lineWith_structured {host : Host} {e : Entry} {arguments : List Json} {time message : Text}
    (timed : e.time.text = .ok time)
    (filled : Template.fill host e.event.message arguments = .ok message) (active : Option Text) :
    e.lineWith host .structured active arguments =
      (e.worded message).structured host time active := by
  have timeText : e.timeText = .ok time := by rw [Entry.timeText, timed]
  have filled : e.fill host arguments = .ok (e.worded message) := by
    rw [Entry.fill, filled]
    rfl
  simp only [lineWith, timeText, filled]
  rfl

end Entry

end SqlReplay.Log

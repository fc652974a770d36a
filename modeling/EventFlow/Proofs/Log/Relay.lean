import EventFlow.Proofs.Engine.Moments
import EventFlow.Proofs.Json.Rereading

/-!
# Events through a log

An event that was published is read from its record with the same key, and with the
data that the text of its data is read back as. Data that is nested too deeply for a
text makes the record unreadable.
-/

namespace EventFlow

/-- What a reader of a log finds as the data of an event that was published with this
data: its text, read back one level inside of the event. -/
def Json.relayed? (data : Json) : Option Json :=
  (Decode.json (.text (Decode.textLevels - 1))
    (DraftText.ofBytes (Text.bytesOf data.compact)).draft).toOption

/-- The record of an event that was published. -/
def EventKey.record (key : EventKey) (data : Json) (offset : Nat) : Record :=
  ⟨offset, Text.bytesOf (key.toRaw data).compact⟩

namespace EventKey

/-- The key of a raw event is found in it. -/
theorem ofRaw?_toRaw (key : EventKey) (data : Json) : ofRaw? (key.toRaw data) = some key := by
  rfl

/-- A raw event is decoded by decoding its data one level deeper. -/
theorem json_reread_toRaw (key : EventKey) (data : Json) (levels : Nat) :
    Decode.json (.text (levels + 1)) (Reader.reread (key.toRaw data)) =
      (Decode.json (.text levels) (Reader.reread data)).map key.toRaw := by
  simp only [toRaw, Reader.reread, Reader.rereadFields, Draft.sound, Decode.json, Reading.enter,
    Failing.ok_bind, Decode.jsonFields, Decode.key]
  cases Decode.json (.text levels) (Reader.reread data) with
  | error cause => rfl
  | ok value => rfl

/-- The record of a published event holds an event of the same key, with what became
of its data, if that could be read back. -/
theorem event?_record (key : EventKey) (data : Json) (offset : Nat) :
    (key.record data offset).event? = data.relayed?.map fun value => (key, key.toRaw value) := by
  have read : (key.record data offset).json =
      decoded ((Decode.json (.text (Decode.textLevels - 1)) (Reader.reread data)).map key.toRaw) := by
    have deeper : Decode.json (.text Decode.textLevels) (Reader.reread (key.toRaw data)) = _ :=
      json_reread_toRaw key data (Decode.textLevels - 1)
    rw [Record.json, record, Decode.bytes, Decode.draftText, DraftText.ofBytes_compact, ← deeper]
    cases Decode.json (.text Decode.textLevels) (Reader.reread (key.toRaw data)) <;> rfl
  rw [Record.event?, read, Json.relayed?, DraftText.ofBytes_compact]
  cases Decode.json (.text (Decode.textLevels - 1)) (Reader.reread data) <;> rfl

end EventKey

/-! ## Data that gets through unchanged -/

/-- What gets through is read from the text of the data itself, without its event. -/
theorem Json.relayed?_eq (data : Json) :
    data.relayed? = (Decode.json (.text (Decode.textLevels - 1)) (Reader.reread data)).toOption := by
  rw [relayed?, DraftText.ofBytes_compact]

/-- Data in order that fits into an event gets through unchanged. -/
theorem Json.relayed?_of_fits {data : Json} (ordered : data.Ordered)
    (fits : data.Fits (Decode.textLevels - 1)) : data.relayed? = some data := by
  rw [relayed?_eq, Reader.json_reread_of_fits fits, sorted_of_ordered ordered]
  rfl

end EventFlow

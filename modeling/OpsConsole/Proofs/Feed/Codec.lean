import OpsConsole.Feed.Frame
import OpsConsole.Proofs.Json.Members
import OpsConsole.Proofs.Json.RoundTrip

/-!
# Frames on the wire

A frame is admissible when its payload can stand in an envelope: a log line names its process and
is not empty, any other payload is not null and nests at most 126 deep, one level less than a text
may. Reading a written frame gives the frame back exactly when it is admissible; otherwise the
cause names what is wrong with it. Whatever the text, a frame that is read is admissible, so
writing it and reading it again changes nothing.

Doubles are the exception to be made: reading does not round correctly, so each double of a frame
that is written is assumed to read back.
-/

namespace OpsConsole

open Json

namespace Envelope

theorem parse_render (type : String) (v : Value) :
    Document.parse (render type v).toList =
      some (.object [(writtenPieces "type", .text (writtenPieces type)),
        (writtenPieces "data", v.document)]) := by
  rw [render, renderRecord, Value.toList_render, Document.parse_chars]
  rfl

theorem read?_render (type : String) {p : Payload} (hr : ∀ x ∈ p.value.reals, ReadsBack x) :
    read? (render type p.value) =
      if p.value.depth ≤ 126 then some ⟨type, if p = .null then none else some p⟩
      else none := by
  have hvalue := Document.value?_document (nestingLimit - 1) p.value p.proper hr
  rw [read?, parse_render, Option.bind_some, ofDocument?,
    Document.fields?_written (by decide)]
  simp only [Document.text?, Piece.text?_writtenPieces]
  by_cases hdepth : p.value.depth ≤ 126
  · rw [if_pos (show p.value.depth ≤ nestingLimit - 1 from hdepth)] at hvalue
    rw [if_pos hdepth, Payload.ofDocument?_eq_some_iff.2 hvalue]
    rcases p with ⟨v, hv⟩
    cases v <;> rfl
  · rw [if_neg (show ¬ p.value.depth ≤ nestingLimit - 1 from hdepth)] at hvalue
    rw [if_neg hdepth, Payload.ofDocument?_eq_none_iff.2 hvalue]

theorem payload_of_read? {raw : String} {e : Envelope} {p : Payload} (h : read? raw = some e)
    (hdata : e.data = some p) : p ≠ .null ∧ p.value.depth ≤ 126 := by
  obtain ⟨d, -, hd⟩ := Option.bind_eq_some_iff.1 h
  rw [ofDocument?] at hd
  split at hd
  · obtain ⟨type, -, rfl⟩ := Option.map_eq_some_iff.1 hd
    cases hdata
  · split at hd
    · cases hd
      cases hdata
    · next payload hnull _ hread =>
      cases hd
      cases hdata
      have hdepth := (Document.value?_proper _ (Payload.ofDocument?_eq_some_iff.1 hread)).1
      exact ⟨hnull trivial, hdepth⟩
    · cases hd
  · cases hd

end Envelope

namespace LogLine

theorem ofValue_toPayload (l : LogLine) : ofValue l.toPayload.value = .ok l := by
  simp [toPayload, ofValue, ofMembers, Value.member?, readText, readId, Value.identifier?]
  rfl

theorem isBlank_iff {l : LogLine} :
    l.isBlank = true ↔ Text.trim l.processId = "" ∨ l.line = "" := by
  simp [isBlank, Text.trim_eq_empty_iff]

end LogLine

namespace Frame

/-- The frames that can be read. -/
def Admissible : Frame → Prop
  | processSnapshot p | metricsSample p | alert p | clusterSnapshot p | deploymentSnapshot p =>
    p ≠ .null ∧ p.value.depth ≤ 126
  | logLine l => Text.trim l.processId ≠ "" ∧ l.line ≠ ""

/-- What reading a written frame gives. -/
def outcome (f : Frame) : Except FrameError Frame :=
  if 126 < f.payload.value.depth then .error .undecodable
  else if f.payload = .null then .error (.missingData f.topic)
  else ofPayload f.topic f.payload

theorem read_encode {f : Frame} (hr : ∀ x ∈ f.payload.value.reals, ReadsBack x) :
    read f.encode = f.outcome := by
  rw [read, encode, Envelope.read?_render _ hr, outcome]
  by_cases hdepth : f.payload.value.depth ≤ 126
  · rw [if_pos hdepth, if_neg (Nat.not_lt.2 hdepth)]
    simp only [ofEnvelope, Topic.ofWireName?_wireName]
    by_cases hnull : f.payload = .null
    · rw [if_pos hnull, if_pos hnull]
    · rw [if_neg hnull, if_neg hnull]
  · rw [if_neg hdepth, if_pos (Nat.not_le.1 hdepth)]

theorem decode_encode {f : Frame} (hr : ∀ x ∈ f.payload.value.reals, ReadsBack x) {limit : Nat}
    (hlimit : Text.Utf8.size f.encode ≤ limit) : decode limit f.encode = f.outcome := by
  rw [decode, if_neg (Nat.not_lt.2 hlimit), read_encode hr]

theorem ofPayload_logLine (l : LogLine) :
    ofPayload .logLine l.toPayload =
      if l.isBlank then .error (.invalidPayload .logLine .blank) else .ok (logLine l) := by
  rw [ofPayload, LogLine.ofValue_toPayload]

theorem outcome_logLine (l : LogLine) :
    (logLine l).outcome =
      if l.isBlank then .error (.invalidPayload .logLine .blank) else .ok (logLine l) := by
  have hdepth : ¬ 126 < (logLine l).payload.value.depth := by
    simp [payload, LogLine.toPayload, Value.depth, Value.depthMembers]
  have hnull : (logLine l).payload ≠ .null := by simp [payload, LogLine.toPayload]
  rw [outcome, if_neg hdepth, if_neg hnull]
  exact ofPayload_logLine l

theorem outcome_eq_ok_iff {f : Frame} : f.outcome = .ok f ↔ f.Admissible := by
  cases f with
  | logLine l =>
    rw [outcome_logLine]
    have hblank := LogLine.isBlank_iff (l := l)
    by_cases h : l.isBlank = true
    · rw [if_pos h]
      have hwrong := hblank.1 h
      simp only [reduceCtorEq, Admissible, false_iff]
      intro hgood
      rcases hwrong with hid | hline
      · exact hgood.1 hid
      · exact hgood.2 hline
    · rw [if_neg h]
      have hright := mt hblank.2 h
      simp only [Admissible, true_iff]
      exact not_or.1 hright
  | _ p =>
    simp only [outcome, payload, Admissible]
    by_cases hdepth : 126 < p.value.depth
    · simp [hdepth, Nat.not_le.2 hdepth]
    · by_cases hnull : p = .null
      · simp [hnull, Payload.null, Value.depth]
      · simp [hdepth, hnull, ofPayload, topic, Nat.not_lt.1 hdepth]

theorem admissible_of_ofPayload {topic : Topic} {p : Payload} {f : Frame} (hnull : p ≠ .null)
    (hdepth : p.value.depth ≤ 126) (h : ofPayload topic p = .ok f) : f.Admissible := by
  cases topic with
  | logLine =>
    rw [ofPayload] at h
    split at h
    · cases h
    · next l _ =>
      split at h
      · cases h
      · next hblank =>
        cases h
        exact not_or.1 (mt LogLine.isBlank_iff.2 hblank)
  | _ =>
    cases h
    exact ⟨hnull, hdepth⟩

theorem payload_of_ofEnvelope {e : Envelope} {f : Frame} (h : ofEnvelope e = .ok f) :
    ∃ topic p, e.data = some p ∧ ofPayload topic p = .ok f := by
  rw [ofEnvelope] at h
  split at h
  · cases h
  · next topic _ =>
    split at h
    · cases h
    · next p hp => exact ⟨topic, p, hp, h⟩

theorem envelope_of_decode {limit : Nat} {raw : String} {f : Frame}
    (h : decode limit raw = .ok f) : ∃ e, Envelope.read? raw = some e ∧ ofEnvelope e = .ok f := by
  by_cases hsize : limit < Text.Utf8.size raw
  · rw [decode, if_pos hsize] at h
    cases h
  · rw [decode, if_neg hsize, read] at h
    split at h
    · cases h
    · next e he => exact ⟨e, he, h⟩

theorem admissible_of_decode {limit : Nat} {raw : String} {f : Frame}
    (h : decode limit raw = .ok f) : f.Admissible := by
  obtain ⟨e, hread, hframe⟩ := envelope_of_decode h
  obtain ⟨topic, p, hdata, hpayload⟩ := payload_of_ofEnvelope hframe
  obtain ⟨hnull, hdepth⟩ := Envelope.payload_of_read? hread hdata
  exact admissible_of_ofPayload hnull hdepth hpayload

/-- A frame is written as a JSON text. It is read as itself exactly when it is admissible, and else
refused with the cause that names what is wrong with it. A frame that is read is admissible, so
writing what was read and reading it again gives the same frame. -/
theorem decode_encode_iff_admissible :
    (∀ f : Frame, (Document.parse f.encode.toList).isSome ∧
      ((∀ x ∈ f.payload.value.reals, ReadsBack x) →
        ∀ limit, Text.Utf8.size f.encode ≤ limit →
          (decode limit f.encode = .ok f ↔ f.Admissible) ∧
          (f.payload = .null → decode limit f.encode = .error (.missingData f.topic)) ∧
          (126 < f.payload.value.depth → decode limit f.encode = .error .undecodable) ∧
          (∀ l, f = logLine l → Text.trim l.processId = "" ∨ l.line = "" →
            decode limit f.encode = .error (.invalidPayload .logLine .blank)))) ∧
    (∀ limit raw f, decode limit raw = .ok f →
      f.Admissible ∧
      ((∀ x ∈ f.payload.value.reals, ReadsBack x) →
        ∀ limit', Text.Utf8.size f.encode ≤ limit' → decode limit' f.encode = .ok f)) := by
  refine ⟨?_, ?_⟩
  · intro f
    refine ⟨by rw [encode, Envelope.parse_render]; rfl, ?_⟩
    intro hr limit hlimit
    rw [decode_encode hr hlimit]
    refine ⟨outcome_eq_ok_iff, ?_, ?_, ?_⟩
    · intro hnull
      have hdepth : ¬ 126 < f.payload.value.depth := by simp [hnull, Payload.null, Value.depth]
      rw [outcome, if_neg hdepth, if_pos hnull]
    · intro hdepth
      rw [outcome, if_pos hdepth]
    · rintro l rfl hwrong
      rw [outcome_logLine, if_pos (LogLine.isBlank_iff.2 hwrong)]
  · intro limit raw f h
    have hadmissible := admissible_of_decode h
    refine ⟨hadmissible, fun hr limit' hlimit => ?_⟩
    rw [decode_encode hr hlimit]
    exact outcome_eq_ok_iff.2 hadmissible

/-- An alert with an escaped text, a double and a negative number comes back. -/
theorem decode_encode_alert :
    let v : Value := .object [("note", .text "a\n\x01"),
      ("value", .number (.real ⟨false, 3 * Nat.pow 2 51, -52⟩)),
      ("z", .array [.number (.negative 7 (by decide) (by decide))])]
    let f := alert ⟨v, by decide⟩
    decode 100 f.encode = .ok f := by
  intro v f
  have hreads : ∀ x ∈ f.payload.value.reals, ReadsBack x := by decide +kernel
  have hsize : Text.Utf8.size f.encode ≤ 100 := by decide +kernel
  have hadmissible : f.Admissible := by
    simp [f, v, Admissible, Value.depth, Value.depthMembers, Value.depthItems]
  exact ((decode_encode_iff_admissible.1 f).2 hreads 100 hsize).1.2 hadmissible

end Frame

end OpsConsole

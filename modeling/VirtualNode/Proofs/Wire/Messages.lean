import VirtualNode.Biz.Probe
import VirtualNode.Biz.Report
import VirtualNode.Proofs.Wire.Records

/-!
# Messages read back

What is published is read back as it was: a descriptor, a probe whose time fits a word, and reports,
one by itself or any list of them.  The text of a state says less than the state, since the text of
an unknown state may be the word of a known one; so the states of the reports have to be states that
were read once (`Legible`).  Whatever a message of reports is read as has such states.

Main statement: `messages_read_back`.
-/

set_option autoImplicit false

namespace VirtualNode.Biz

open VirtualNode.Json (Value Scalar Row Delimited)
open VirtualNode.Text.Symbols (ofString ofBytes ofBytes_toUTF8)

/-! ## Descriptors and probes -/

/-- A text is of the kind of a field of texts. -/
theorem suits_text {f : Json.Field} (kind : f.kind = .text) (s : String) :
    Scalar.Suits f (.text s) := by
  simp [Scalar.Suits, Scalar.value, Json.ScalarKind.ofValue?, kind]

namespace Descriptor

/-- The scalars of a descriptor. -/
def scalars (d : Descriptor) : List Scalar := [.text d.name, .text d.version, .text d.url]

/-- The values of a module are of the kinds of its fields. -/
theorem suits (d : Descriptor) :
    List.Forall₂ (fun f s => Scalar.Suits f s) fields d.scalars :=
  .cons (suits_text rfl _) <| .cons (suits_text rfl _) <| .cons (suits_text rfl _) .nil

/-- A descriptor is written as a record. -/
theorem toJson_eq_written (d : Descriptor) : d.toJson = .object (Row.written fields d.scalars) :=
  rfl

/-- A module is read back from its message. -/
theorem decode_encode (d : Descriptor) : decode d.encode.toUTF8 = .ok d := by
  have separate : Row.Separate fields := by decide
  rw [decode, ofBytes_toUTF8, encode, toJson_eq_written,
    Row.decode_written separate d.suits (by simp [fields])]
  rfl

end Descriptor

namespace Probe

/-- The time of a probe fits a signed word. -/
def Timely (p : Probe) : Prop :=
  -(Nat.pow 2 63 : Int) ≤ p.timestamp ∧ p.timestamp < Nat.pow 2 63

/-- The scalars of a probe. -/
def scalars (p : Probe) : List Scalar := [.text p.nodeId, .whole p.timestamp]

/-- The values of a probe are of the kinds of its fields, if its time is one of the clock. -/
theorem suits {p : Probe} (timely : p.Timely) :
    List.Forall₂ (fun f s => Scalar.Suits f s) fields p.scalars := by
  refine .cons (suits_text rfl _) (.cons ?_ .nil)
  have signed : Json.fitsSigned p.timestamp = true := by
    simpa [Json.fitsSigned, Timely] using timely
  simp [Scalar.Suits, Scalar.value, Json.ScalarKind.ofValue?, signed]

/-- A probe is written as a record. -/
theorem encode_eq_written (p : Probe) :
    p.encode = (Value.object (Row.written fields p.scalars)).write := rfl

/-- A probe is read back from its message. -/
theorem decode_encode {p : Probe} (timely : p.Timely) : decode p.encode.toUTF8 = .ok p := by
  have separate : Row.Separate fields := by decide
  rw [decode, ofBytes_toUTF8, encode_eq_written,
    Row.decode_written separate (suits timely) (by simp [fields])]
  rfl

end Probe

/-! ## Reports -/

/-- The state is one that is read from some text. -/
def State.Legible (s : State) : Prop := ∃ raw, s = parse raw

/-- A state that was read is read back from its text. -/
theorem State.Legible.parse_text {s : State} (legible : s.Legible) : parse s.text = s := by
  obtain ⟨raw, rfl⟩ := legible
  exact parse_text_parse raw

-- A state that no text is read as may have the text of another one.
example : State.parse (State.other "activated").text = .activated := by decide

namespace Report

/-- The scalars of a report. -/
def scalars (r : Report) : List Scalar :=
  [.text r.name, .text r.version, .text r.state.text, .text r.mainClass, .text r.webContextPath]

/-- The values of a report are of the kinds of its fields. -/
theorem suits (r : Report) :
    List.Forall₂ (fun f s => Scalar.Suits f s) fields r.scalars :=
  .cons (suits_text rfl _) <| .cons (suits_text rfl _) <| .cons (suits_text rfl _) <|
    .cons (suits_text rfl _) <| .cons (suits_text rfl _) .nil

/-- A report is written as a record. -/
theorem toJson_eq_written (r : Report) : r.toJson = .object (Row.written fields r.scalars) :=
  rfl

/-- A report is read back from its document. -/
theorem ofJson?_toJson {r : Report} (legible : r.state.Legible) : ofJson? r.toJson = some r := by
  have separate : Row.Separate fields := by decide
  have state : State.parse r.state.text = r.state := legible.parse_text
  rw [ofJson?, toJson_eq_written, Row.ofValue?_written separate r.suits, Option.map_some]
  simp [ofRow, scalars, Row.string, Scalar.string?, state]

/-- No list of reports is taken for a single one. -/
theorem ofJson?_list (rs : List Report) : ofJson? (.list (rs.map toJson)) = none := by
  cases rs with
  | nil => rfl
  | cons r rs => simp [ofJson?, Row.ofValue?, fields, Row.fill, toJson, Json.ScalarKind.ofValue?]

/-- Reports are read back from the list of their documents. -/
theorem listOfJson?_list {rs : List Report} (legible : ∀ r ∈ rs, r.state.Legible) :
    listOfJson? (.list (rs.map toJson)) = some rs := by
  induction rs with
  | nil => rfl
  | cons r rs ih =>
    rw [List.forall_mem_cons] at legible
    have later : (rs.map toJson).mapM ofJson? = some rs := ih legible.2
    simp [listOfJson?, Value.items?, List.mapM_cons, ofJson?_toJson legible.1, later]

/-- A document that is accepted is read from its written form. -/
theorem decode_write {v : Value} {rs : List Report} (fits : v.Fits Json.maxDepth)
    (accepted : batchOfJson? v = some rs) : decode v.write.toUTF8 = .ok rs := by
  have read := Json.readDocument_write fits [] trivial
  rw [List.append_nil] at read
  rw [decode, ofBytes_toUTF8]
  simp [Json.decode, read, accepted, Json.readEnd, Json.skipBlanks, bind, Except.bind]

/-- The document of a report is one level deep. -/
theorem fits_toJson (r : Report) (room : Nat) : r.toJson.Fits (room + 1) :=
  ⟨trivial, trivial, trivial, trivial, trivial, trivial⟩

/-- A report is read back from its message, as a batch of one. -/
theorem decode_encode {r : Report} (legible : r.state.Legible) :
    decode r.encode.toUTF8 = .ok [r] := by
  refine decode_write (r.fits_toJson _) ?_
  simp [batchOfJson?, ofJson?_toJson legible]

/-- The documents of reports are one level deep. -/
theorem itemsFit_toJson (rs : List Report) (room : Nat) :
    Json.ItemsFit (room + 1) (rs.map toJson) := by
  induction rs with
  | nil => trivial
  | cons r rs ih => exact ⟨r.fits_toJson room, ih⟩

/-- A batch of reports is read back from its message. -/
theorem decode_encodeBatch {rs : List Report} (legible : ∀ r ∈ rs, r.state.Legible) :
    decode (encodeBatch rs).toUTF8 = .ok rs := by
  refine decode_write (itemsFit_toJson rs _) ?_
  simp [batchOfJson?, ofJson?_list, listOfJson?_list legible]

/-! ### Whatever is read can be read again -/

/-- The state of a report that was read is legible. -/
theorem legible_ofJson? {v : Value} {r : Report} (h : ofJson? v = some r) : r.state.Legible := by
  obtain ⟨row, -, rfl⟩ := Option.map_eq_some_iff.1 h
  exact ⟨_, rfl⟩

/-- The states of reports that were read are legible. -/
theorem legible_mapM {items : List Value} {rs : List Report}
    (h : items.mapM ofJson? = some rs) : ∀ r ∈ rs, r.state.Legible := by
  induction items generalizing rs with
  | nil =>
    cases h
    simp
  | cons v items ih =>
    rw [List.mapM_cons] at h
    obtain ⟨r, first, h⟩ := Option.bind_eq_some_iff.1 h
    obtain ⟨later, more, h⟩ := Option.bind_eq_some_iff.1 h
    cases h
    rw [List.forall_mem_cons]
    exact ⟨legible_ofJson? first, ih more⟩

/-- The states of a batch that was read are legible. -/
theorem legible_batchOfJson? {v : Value} {rs : List Report} (h : batchOfJson? v = some rs) :
    ∀ r ∈ rs, r.state.Legible := by
  unfold batchOfJson? at h
  split at h
  · rename_i r single
    cases h
    rw [List.forall_mem_singleton]
    exact legible_ofJson? single
  · obtain ⟨items, -, all⟩ := Option.bind_eq_some_iff.1 h
    exact legible_mapM all

/-- The states of reports that were read are legible. -/
theorem legible_decode {payload : ByteArray} {rs : List Report} (h : decode payload = .ok rs) :
    ∀ r ∈ rs, r.state.Legible := by
  rw [decode, Json.decode] at h
  simp only [bind, Except.bind] at h
  split at h
  · cases h
  · split at h
    · cases h
    · rename_i accepted
      split at h
      · cases h
      · cases h
        exact legible_batchOfJson? accepted

end Report

/-! ## Together -/

/-- What it means that messages are read back. -/
structure ReadBack : Prop where
  /-- A list of reports. -/
  reports : ∀ rs : List Report, (∀ r ∈ rs, ∃ raw, r.state = State.parse raw) →
    Report.decode (Report.encodeBatch rs).toUTF8 = .ok rs
  /-- A report by itself. -/
  report : ∀ r : Report, (∃ raw, r.state = State.parse raw) →
    Report.decode r.encode.toUTF8 = .ok [r]
  /-- Reports that were read, whatever they were read from. -/
  reportsAgain : ∀ (payload : ByteArray) (rs : List Report), Report.decode payload = .ok rs →
    Report.decode (Report.encodeBatch rs).toUTF8 = .ok rs
  /-- A report that was read by itself. -/
  reportAgain : ∀ (payload : ByteArray) (r : Report), Report.decode payload = .ok [r] →
    Report.decode r.encode.toUTF8 = .ok [r]
  descriptor : ∀ d : Descriptor, Descriptor.decode d.encode.toUTF8 = .ok d
  /-- A probe whose time fits a signed word. -/
  probe : ∀ (nodeId : String) (t : Int), -(2 ^ 63 : Int) ≤ t → t < 2 ^ 63 →
    Probe.decode (Probe.encode ⟨nodeId, t⟩).toUTF8 = .ok ⟨nodeId, t⟩

/-- Every message is read back as it was. -/
theorem messages_read_back : ReadBack where
  reports _ legible := Report.decode_encodeBatch legible
  report _ legible := Report.decode_encode legible
  reportsAgain _ _ read := Report.decode_encodeBatch (Report.legible_decode read)
  reportAgain _ _ read := Report.decode_encode (Report.legible_decode read _ List.mem_cons_self)
  descriptor := Descriptor.decode_encode
  probe _ _ low high := Probe.decode_encode ⟨by simpa using low, by simpa using high⟩

/-- Two reports with quotes, a control character and a crab in their texts, one of an unknown state,
and a probe of the earliest time. -/
theorem odd_messages_read_back :
    let rs : List Report :=
      [⟨"\"quoted\"", "1\\2", .other " Starting\n", "\x00", "🦀"⟩, ⟨"", "", .activated, "", ""⟩]
    Report.decode (Report.encodeBatch rs).toUTF8 = .ok rs ∧
      Probe.decode (Probe.encode ⟨"node", -(2 ^ 63)⟩).toUTF8 = .ok ⟨"node", -(2 ^ 63)⟩ := by
  intro rs
  have legible : ∀ r ∈ rs, ∃ raw, r.state = State.parse raw := by
    simp only [rs, List.forall_mem_cons, List.not_mem_nil, false_implies, implies_true, and_true]
    exact ⟨⟨" Starting\n", by decide⟩, "activated", by decide⟩
  exact ⟨messages_read_back.reports rs legible,
    messages_read_back.probe "node" _ (le_refl _) (by decide)⟩

end VirtualNode.Biz

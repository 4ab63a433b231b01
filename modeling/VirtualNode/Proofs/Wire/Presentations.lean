import Mathlib.Logic.Relation
import VirtualNode.Proofs.Wire.Fields
import VirtualNode.Proofs.Wire.Messages

/-!
# Reports whatever their presentation

A base may give a report as an object or as a list of texts, under the names of the fields or under
their second names, in any order and among members that nobody asks for; and it may send one report
by itself or a list of them.  None of this shows in what is read.

Main definitions: `SameRecord` says of two documents that they give one record in two ways, and
`SameMessage` the same of messages; `Faulty` records give a field twice, or a null for it.  Both
are about documents; a payload is read by reading its document first (`decode_of_document`).

Main statement: `decoded_whatever_presentation`.
-/

set_option autoImplicit false

namespace VirtualNode.Biz.Report

open VirtualNode.Json (Field Members Row ScalarKind Value)

/-! ## Names -/

/-- Two names of one field. -/
def Synonyms (k k' : String) : Prop :=
  ∃ f ∈ fields, f.answersTo k = true ∧ f.answersTo k' = true

/-- A name that belongs to no field. -/
def Foreign (k : String) : Prop := ∀ f ∈ fields, f.answersTo k = false

instance (k k' : String) : Decidable (Synonyms k k') :=
  inferInstanceAs (Decidable (∃ f ∈ fields, f.answersTo k = true ∧ f.answersTo k' = true))

instance (k : String) : Decidable (Foreign k) :=
  inferInstanceAs (Decidable (∀ f ∈ fields, f.answersTo k = false))

/-- A name to which a field answers stands for it, like the name of the field. -/
theorem position?_of_answersTo {f : Field} (mem : f ∈ fields) {k : String}
    (mine : f.answersTo k = true) :
    (Row.position? fields k).isSome = true ∧
      Row.position? fields k = Row.position? fields f.name := by
  simp only [fields, List.mem_cons, List.not_mem_nil, or_false] at mem
  rcases mem with rfl | rfl | rfl | rfl | rfl
  all_goals
    simp only [Field.answersTo, Bool.or_eq_true, decide_eq_true_eq, Option.some.injEq,
      reduceCtorEq, or_false] at mine
    rcases mine with rfl | rfl <;> decide

/-- Synonyms stand for the same field. -/
theorem Synonyms.position? {k k' : String} (same : Synonyms k k') :
    ∃ i, Row.position? fields k = some i ∧ Row.position? fields k' = some i := by
  obtain ⟨f, mem, mine, mine'⟩ := same
  obtain ⟨known, here⟩ := position?_of_answersTo mem mine
  obtain ⟨-, here'⟩ := position?_of_answersTo mem mine'
  obtain ⟨i, name⟩ := Option.isSome_iff_exists.1 known
  exact ⟨i, name, by rw [here', ← here, name]⟩

/-- A foreign name stands for no field. -/
theorem Foreign.position? {k : String} (foreign : Foreign k) : Row.position? fields k = none :=
  List.findIdx?_eq_none_iff.2 foreign

/-! ## Two ways to give a record -/

/-- The members that give texts to the fields, from the first field on. -/
def named (texts : List String) : Members :=
  List.zipWith (fun f t => (f.name, .text t)) fields texts

/-- One change to the way in which a record is given. -/
inductive Restated : Value → Value → Prop
  | reordered {ms ms' : Members} (perm : ms.Perm ms') : Restated (.object ms) (.object ms')
  | renamed (before after : Members) {k k' : String} (v : Value) (same : Synonyms k k') :
    Restated (.object (before ++ (k, v) :: after)) (.object (before ++ (k', v) :: after))
  | extended (before after : Members) {k : String} (v : Value) (foreign : Foreign k) :
    Restated (.object (before ++ after)) (.object (before ++ (k, v) :: after))
  | listed {texts : List String} (enough : 3 ≤ texts.length) (fit : texts.length ≤ 5) :
    Restated (.list (texts.map .text)) (.object (named texts))

/-- Two ways to give one record. -/
def SameRecord : Value → Value → Prop := Relation.EqvGen Restated

/-- Two ways to send the same reports. -/
inductive SameMessage : Value → Value → Prop
  | single {v v' : Value} (same : SameRecord v v') : SameMessage v v'
  | batch {items items' : List Value} (same : List.Forall₂ SameRecord items items') :
    SameMessage (.list items) (.list items')

/-- What single restatements do not change, none of the same records does. -/
theorem SameRecord.congr {α : Type} {f : Value → α}
    (restated : ∀ v v', Restated v v' → f v = f v') {v v' : Value} (same : SameRecord v v') :
    f v = f v' := by
  induction same with
  | rel v v' step => exact restated v v' step
  | refl v => rfl
  | symm v v' _ ih => exact ih.symm
  | trans v w v' _ _ ih ih' => exact ih.trans ih'

/-- The report that some texts give from the first field on. -/
def ofTexts (texts : List String) : Report where
  name := texts.getD 0 ""
  version := texts.getD 1 ""
  state := State.parse (texts.getD 2 "")
  mainClass := texts.getD 3 ""
  webContextPath := texts.getD 4 ""

/-- Texts in their positions are read like members with their names. -/
theorem ofJson?_texts {texts : List String} (enough : 3 ≤ texts.length) (fit : texts.length ≤ 5) :
    ofJson? (.list (texts.map .text)) = some (ofTexts texts) ∧
      ofJson? (.object (named texts)) = some (ofTexts texts) := by
  match texts, enough, fit with
  | [_, _, _], _, _ => exact ⟨rfl, rfl⟩
  | [_, _, _, _], _, _ => exact ⟨rfl, rfl⟩
  | [_, _, _, _, _], _, _ => exact ⟨rfl, rfl⟩

/-- A restatement does not change which report is read. -/
theorem ofJson?_restated {v v' : Value} (step : Restated v v') : ofJson? v = ofJson? v' := by
  cases step with
  | reordered perm =>
    rw [ofJson?, Row.ofValue?_congr fun i => Row.valuesOf_perm perm, ofJson?]
  | renamed before after v same =>
    obtain ⟨i, here, here'⟩ := same.position?
    rw [ofJson?, ofJson?]
    congr 1
    refine Row.ofValue?_congr fun j => ?_
    rw [Row.valuesOf_append, Row.valuesOf_append]
    by_cases mine : j = i
    · subst mine
      rw [Row.valuesOf_cons_here here, Row.valuesOf_cons_here here']
    · rw [Row.valuesOf_cons_other (by simpa [here] using Ne.symm mine),
        Row.valuesOf_cons_other (by simpa [here'] using Ne.symm mine)]
  | extended before after v foreign =>
    rw [ofJson?, ofJson?]
    congr 1
    refine Row.ofValue?_congr fun j => ?_
    rw [Row.valuesOf_append, Row.valuesOf_append,
      Row.valuesOf_cons_other (by simp [foreign.position?])]
  | listed enough fit =>
    obtain ⟨list, object⟩ := ofJson?_texts enough fit
    rw [list, object]

/-- The same record is read as the same report. -/
theorem SameRecord.ofJson? {v v' : Value} (same : SameRecord v v') :
    Report.ofJson? v = Report.ofJson? v' :=
  same.congr fun _ _ => ofJson?_restated

/-! ## Lists of records -/

/-- A text is no report. -/
theorem ofJson?_text (s : String) : ofJson? (.text s) = none := rfl

/-- A list with an item that is no report is no batch. -/
theorem listOfJson?_eq_none {items : List Value} {item : Value} (mem : item ∈ items)
    (misfit : ofJson? item = none) : listOfJson? (.list items) = none := by
  have none_read : items.mapM ofJson? = none := by
    induction items with
    | nil => cases mem
    | cons first items ih =>
      rw [List.mapM_cons]
      rcases List.mem_cons.1 mem with rfl | later
      · rw [misfit]
        rfl
      · rw [ih later]
        cases ofJson? first <;> rfl
  exact none_read

/-- A list with an item that is no scalar is no record. -/
theorem fill_eq_none {fs : List Field} {items : List Value} {item : Value} (mem : item ∈ items)
    (misfit : ∀ kind : ScalarKind, kind.ofValue? item = none) : Row.fill fs items = none := by
  induction items generalizing fs with
  | nil => cases mem
  | cons first items ih =>
    cases fs with
    | nil => rfl
    | cons f fs =>
      rw [Row.fill]
      rcases List.mem_cons.1 mem with rfl | later
      · rw [misfit]
        rfl
      · rw [ih later]
        cases f.kind.ofValue? first <;> rfl

/-- A list with an item that fits no field is no report. -/
theorem ofJson?_list_eq_none {items : List Value} {item : Value} (mem : item ∈ items)
    (misfit : ∀ kind : ScalarKind, kind.ofValue? item = none) : ofJson? (.list items) = none := by
  simp [ofJson?, Row.ofValue?, fill_eq_none mem misfit]

/-- A restatement does not change which batch is read. -/
theorem listOfJson?_restated {v v' : Value} (step : Restated v v') :
    listOfJson? v = listOfJson? v' := by
  cases step with
  | reordered | renamed | extended => rfl
  | @listed texts enough fit =>
    have first : .text texts[0] ∈ texts.map Value.text :=
      List.mem_map_of_mem (List.getElem_mem (by omega))
    rw [listOfJson?_eq_none first (ofJson?_text _)]
    rfl

/-- The same record is read as the same batch. -/
theorem SameRecord.listOfJson? {v v' : Value} (same : SameRecord v v') :
    Report.listOfJson? v = Report.listOfJson? v' :=
  same.congr fun _ _ => listOfJson?_restated

/-- A record that is given in another way is the same scalar as before, or none as before. -/
theorem SameRecord.scalar {v v' : Value} (same : SameRecord v v') (kind : ScalarKind) :
    kind.ofValue? v = kind.ofValue? v' :=
  same.congr fun _ _ step => by cases step <;> cases kind <;> rfl

/-- Items that are the same records fill the same fields. -/
theorem fill_congr {fs : List Field} {items items' : List Value}
    (same : List.Forall₂ SameRecord items items') : Row.fill fs items = Row.fill fs items' := by
  induction same generalizing fs with
  | nil => rfl
  | cons first _ ih =>
    cases fs with
    | nil => rfl
    | cons f fs => rw [Row.fill, Row.fill, first.scalar, ih]

/-- Items that are the same records are read as the same reports. -/
theorem mapM_congr {items items' : List Value} (same : List.Forall₂ SameRecord items items') :
    items.mapM ofJson? = items'.mapM ofJson? := by
  induction same with
  | nil => rfl
  | cons first _ ih => rw [List.mapM_cons, List.mapM_cons, first.ofJson?, ih]

/-- The same message is read as the same batch. -/
theorem SameMessage.batchOfJson? {v v' : Value} (same : SameMessage v v') :
    Report.batchOfJson? v = Report.batchOfJson? v' := by
  cases same with
  | single same => rw [Report.batchOfJson?, same.ofJson?, same.listOfJson?, Report.batchOfJson?]
  | @batch items items' same =>
    have record : ofJson? (.list items) = ofJson? (.list items') := by
      simp only [Report.ofJson?, Row.ofValue?, fill_congr same]
    have records : Report.listOfJson? (.list items) = Report.listOfJson? (.list items') :=
      mapM_congr same
    rw [Report.batchOfJson?, record, records, Report.batchOfJson?]

/-- A document is a record or a list of records, and never both. -/
theorem ofJson?_or_listOfJson? (v : Value) : ofJson? v = none ∨ listOfJson? v = none := by
  cases v with
  | list items =>
    -- the first item is a scalar, which is no record, or a container or null, which no field takes
    cases items with
    | nil => exact .inl rfl
    | cons first items =>
      cases first with
      | text s => exact .inr (listOfJson?_eq_none List.mem_cons_self (ofJson?_text s))
      | number n => exact .inr (listOfJson?_eq_none List.mem_cons_self rfl)
      | null | bool | list | object =>
        refine .inl (ofJson?_list_eq_none List.mem_cons_self fun kind => ?_)
        cases kind <;> rfl
  | _ => exact .inr rfl

/-! ## Records that are refused -/

/-- A record that gives a field twice, or gives a null for a field. -/
inductive Faulty : Value → Prop
  | twice (before between after : Members) {k k' : String} (v v' : Value)
    (same : Synonyms k k') :
    Faulty (.object (before ++ (k, v) :: between ++ (k', v') :: after))
  | null {ms : Members} {k : String} (mem : (k, .null) ∈ ms) (known : ¬ Foreign k) :
    Faulty (.object ms)
  | nullItem {items : List Value} (mem : .null ∈ items) : Faulty (.list items)

/-- What is faulty is no report. -/
theorem Faulty.ofJson? {v : Value} (faulty : Faulty v) : Report.ofJson? v = none := by
  cases faulty with
  | @twice before between after k k' v v' same =>
    obtain ⟨i, here, here'⟩ := same.position?
    have several : 2 ≤ (Row.valuesOf fields i
        (before ++ (k, v) :: between ++ (k', v') :: after)).length := by
      rw [Row.valuesOf_append, Row.valuesOf_append, Row.valuesOf_cons_here here,
        Row.valuesOf_cons_here here']
      simp only [List.length_append, List.length_cons]
      omega
    rw [Report.ofJson?, Row.ofValue?_eq_none (Row.position?_lt here)
      (Row.fillCell_eq_none_of_several several)]
    rfl
  | @null ms k mem known =>
    have field : (Row.position? fields k).isSome = true := by
      rw [Row.position?, List.findIdx?_isSome, List.any_eq_true]
      simpa [Foreign] using known
    obtain ⟨i, here⟩ := Option.isSome_iff_exists.1 field
    rw [Report.ofJson?, Row.ofValue?_eq_none (Row.position?_lt here)
      (Row.fillCell_eq_none_of_null (Row.mem_valuesOf here mem))]
    rfl
  | nullItem mem => exact ofJson?_list_eq_none mem Row.ofValue?_null

-- A list with a faulty record is no record either, since the faulty record is no scalar.
/-- What is faulty fits no field. -/
theorem Faulty.scalar {v : Value} (faulty : Faulty v) (kind : ScalarKind) :
    kind.ofValue? v = none := by
  cases faulty <;> cases kind <;> rfl

/-- A message that is a faulty record or has one among its records. -/
inductive FaultyMessage : Value → Prop
  | single {v : Value} (faulty : Faulty v) : FaultyMessage v
  | batch {items : List Value} {item : Value} (mem : item ∈ items) (faulty : Faulty item) :
    FaultyMessage (.list items)

/-- A faulty message is no batch. -/
theorem FaultyMessage.batchOfJson? {v : Value} (faulty : FaultyMessage v) :
    Report.batchOfJson? v = none := by
  have refused : Report.ofJson? v = none ∧ Report.listOfJson? v = none := by
    cases faulty with
    | single faulty =>
      refine ⟨faulty.ofJson?, ?_⟩
      cases faulty with
      | twice | null => rfl
      | nullItem mem => exact listOfJson?_eq_none mem rfl
    | batch mem faulty =>
      exact ⟨ofJson?_list_eq_none mem faulty.scalar, listOfJson?_eq_none mem faulty.ofJson?⟩
  rw [Report.batchOfJson?, refused.1, refused.2]

/-! ## Payloads -/

/-- The document that a payload is. -/
def document (payload : ByteArray) : Except Json.ReadError Value :=
  Json.decode some (Text.Symbols.ofBytes payload)

/-- A message is read if it is one document with nothing after it, and that has the shape. -/
theorem decode_eq_ok_iff {α : Type} {shape : Value → Option α} {xs : List Text.Symbol} {a : α} :
    Json.decode shape xs = .ok a ↔ ∃ v rest, Json.readDocument xs = .ok (v, rest) ∧
      shape v = some a ∧ Json.readEnd rest = .ok () := by
  simp only [Json.decode, bind, Except.bind]
  constructor
  · intro read
    split at read
    · cases read
    · rename_i found whole
      obtain ⟨v, rest⟩ := found
      dsimp only at read
      cases accepted : shape v with
      | none =>
        rw [accepted] at read
        cases read
      | some a' =>
        rw [accepted] at read
        cases ended : Json.readEnd rest with
        | error e =>
          rw [ended] at read
          cases read
        | ok _ =>
          rw [ended] at read
          cases read
          exact ⟨v, rest, whole, accepted, ended⟩
  · rintro ⟨v, rest, whole, accepted, ended⟩
    rw [whole]
    dsimp only
    rw [accepted]
    dsimp only
    rw [ended]

/-- What is read of a message depends on its document. -/
theorem decode_of_document {payload : ByteArray} {v : Value} (read : document payload = .ok v) :
    decode payload = match batchOfJson? v with
      | some reports => .ok reports
      | none => .error .mismatch := by
  obtain ⟨v', rest, whole, same, ended⟩ := decode_eq_ok_iff.1 read
  obtain rfl := Option.some.inj same
  cases accepted : batchOfJson? v' with
  | some reports => exact decode_eq_ok_iff.2 ⟨v', rest, whole, accepted, ended⟩
  | none => simp only [decode, Json.decode, whole, accepted, bind, Except.bind]

/-- A message that is read has a document of the shape. -/
theorem document_of_decode {payload : ByteArray} {reports : List Report}
    (read : decode payload = .ok reports) :
    ∃ v, document payload = .ok v ∧ batchOfJson? v = some reports := by
  obtain ⟨v, rest, whole, accepted, ended⟩ := decode_eq_ok_iff.1 read
  exact ⟨v, decode_eq_ok_iff.2 ⟨v, rest, whole, rfl, ended⟩, accepted⟩

/-- A document that is not too deep is read back from its bytes. -/
theorem document_write {v : Value} (fits : v.Fits Json.maxDepth) :
    document v.write.toUTF8 = .ok v := by
  have whole := Json.readDocument_write fits [] trivial
  rw [List.append_nil] at whole
  rw [document, Text.Symbols.ofBytes_toUTF8]
  exact decode_eq_ok_iff.2 ⟨v, [], whole, rfl, rfl⟩

/-! ## Together -/

/-- What it means that the presentation of reports does not matter. -/
structure PresentationFree : Prop where
  /-- No document is a record and a list of records, whichever is tried first. -/
  exclusive : ∀ v, ofJson? v = none ∨ listOfJson? v = none
  either_first : ∀ v, batchOfJson? v = (listOfJson? v).or ((ofJson? v).map fun r => [r])
  /-- The reports of a message are those of any other presentation of it. -/
  same : ∀ v v', SameMessage v v' → batchOfJson? v = batchOfJson? v'
  /-- A faulty record makes the whole message unreadable. -/
  faulty : ∀ v, FaultyMessage v → batchOfJson? v = none
  /-- A list of three to five texts is the record that gives them to the fields in their order. -/
  listed : ∀ texts : List String, 3 ≤ texts.length → texts.length ≤ 5 →
    batchOfJson? (.list (texts.map .text)) = some [ofTexts texts] ∧
      batchOfJson? (.object (named texts)) = some [ofTexts texts]
  /-- What is read of a payload is what its document says. -/
  payload : ∀ payload reports, decode payload = .ok reports ↔
    ∃ v, document payload = .ok v ∧ batchOfJson? v = some reports
  payloads : ∀ payload payload' v v', document payload = .ok v → document payload' = .ok v' →
    SameMessage v v' → decode payload = decode payload'
  faulty_payload : ∀ payload v, document payload = .ok v → FaultyMessage v →
    decode payload = .error .mismatch

/-- A batch is read first, and a single report otherwise. -/
theorem batchOfJson?_either_first (v : Value) :
    batchOfJson? v = (listOfJson? v).or ((ofJson? v).map fun r => [r]) := by
  unfold batchOfJson?
  rcases ofJson?_or_listOfJson? v with record | records
  · rw [record]
    cases listOfJson? v <;> rfl
  · rw [records]
    cases ofJson? v <;> rfl

/-- The presentation of reports does not matter. -/
theorem decoded_whatever_presentation : PresentationFree where
  exclusive := ofJson?_or_listOfJson?
  either_first := batchOfJson?_either_first
  same _ _ same := same.batchOfJson?
  faulty _ faulty := faulty.batchOfJson?
  listed texts enough fit := by
    obtain ⟨list, object⟩ := ofJson?_texts enough fit
    exact ⟨by rw [batchOfJson?, list], by rw [batchOfJson?, object]⟩
  payload payload reports := by
    refine ⟨document_of_decode, ?_⟩
    rintro ⟨v, read, accepted⟩
    rw [decode_of_document read, accepted]
  payloads payload payload' v v' read read' same := by
    rw [decode_of_document read, decode_of_document read', same.batchOfJson?]
  faulty_payload payload v read faulty := by
    rw [decode_of_document read, faulty.batchOfJson?]

/-- Two messages of the same two reports, under other names, in another order, with a member that
nobody asks for and with a list in place of an object; and a message in which the version of the
first one is given twice. -/
theorem decoded_whatever_presentation_mixed :
    let name : String × Value := ("bizName", .text "a")
    let state : String × Value := ("bizState", .text "ACTIVATED")
    let texts := ["b", "2", "RESOLVED", "Main"]
    let usual : Value := .list [.object [name, ("bizVersion", .text "1"), state],
      .list (texts.map .text)]
    let odd : Value := .list [.object [("version", .text "1"), ("seen", .null), name, state],
      .object (named texts)]
    let doubled : Value := .list [.list (texts.map .text),
      .object [name, ("version", .text "1"), state, ("bizVersion", .text "1")]]
    decode odd.write.toUTF8 = decode usual.write.toUTF8 ∧
      decode doubled.write.toUTF8 = .error .mismatch := by
  intro name state texts usual odd doubled
  have first : SameRecord (.object [name, ("bizVersion", .text "1"), state])
      (.object [("version", .text "1"), ("seen", .null), name, state]) := by
    refine .trans _ (.object [name, ("version", .text "1"), state]) _ (.rel _ _ ?_) ?_
    · exact .renamed [name] [state] _ (by decide)
    refine .trans _ (.object [("version", .text "1"), name, state]) _ (.rel _ _ ?_) (.rel _ _ ?_)
    · exact .reordered (.swap _ _ _)
    · exact .extended [("version", .text "1")] [name, state] _ (by decide)
  have second : SameRecord (.list (texts.map .text)) (.object (named texts)) :=
    .rel _ _ (.listed (by decide) (by decide))
  have faulty : FaultyMessage doubled :=
    .batch (List.mem_cons_of_mem _ List.mem_cons_self)
      (.twice [name] [state] [] (.text "1") (.text "1") (by decide))
  constructor
  · refine (decoded_whatever_presentation.payloads _ _ usual odd ?_ ?_ ?_).symm
    · exact document_write ⟨⟨trivial, trivial, trivial, trivial⟩,
        ⟨trivial, trivial, trivial, trivial, trivial⟩, trivial⟩
    · exact document_write ⟨⟨trivial, trivial, trivial, trivial, trivial⟩,
        ⟨trivial, trivial, trivial, trivial, trivial⟩, trivial⟩
    · exact .batch (.cons first (.cons second .nil))
  · exact decoded_whatever_presentation.faulty_payload _ doubled
      (document_write ⟨⟨trivial, trivial, trivial, trivial, trivial⟩,
        ⟨trivial, trivial, trivial, trivial, trivial⟩, trivial⟩) faulty

end VirtualNode.Biz.Report

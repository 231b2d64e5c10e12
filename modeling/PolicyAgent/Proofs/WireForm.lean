import PolicyAgent.Proofs.Decoding

/-!
# The wire form of reports

A report is written with the names of the wire and without what is missing, and read with either
name of a field, with missing parts spelt out as nulls and with any other fields. Writing undoes
this freedom: the wire form is read as the report and is what that is written as. The data of an
error are kept as they are, whatever nulls there are inside them.

This holds of reports whose data are a JSON value, do not nest too deep and name no field with a
lone half of a surrogate pair. Infinities and NaN are no JSON, and nulls take their places. Other
data are not written.
-/
namespace PolicyAgent

open PolicyAgent.Json PolicyAgent.Text

namespace Json.Value

mutual

def isFinite : Value → Bool
  | number x => x.isFinite
  | array items => itemsAreFinite items
  | object fields => fieldsAreFinite fields
  | _ => true

def itemsAreFinite : List Value → Bool
  | [] => true
  | item :: items => item.isFinite && itemsAreFinite items

def fieldsAreFinite : List (String × Value) → Bool
  | [] => true
  | (_, value) :: fields => value.isFinite && fieldsAreFinite fields

end

mutual

/-- Nothing is lost of a value exactly if it is JSON. -/
theorem withoutNonFinite_eq_self_iff : ∀ v : Value, v.withoutNonFinite = v ↔ v.isFinite = true
  | null | bool _ | integer _ | string _ => by simp [withoutNonFinite, isFinite]
  | number x => by cases h : x.isFinite <;> simp [withoutNonFinite, isFinite, h]
  | array items => by
    simp [withoutNonFinite, isFinite, itemsWithoutNonFinite_eq_self_iff items]
  | object fields => by
    simp [withoutNonFinite, isFinite, fieldsWithoutNonFinite_eq_self_iff fields]

theorem itemsWithoutNonFinite_eq_self_iff : ∀ items : List Value,
    itemsWithoutNonFinite items = items ↔ itemsAreFinite items = true
  | [] => by simp [itemsWithoutNonFinite, itemsAreFinite]
  | item :: items => by
    simp [itemsWithoutNonFinite, itemsAreFinite, withoutNonFinite_eq_self_iff item,
      itemsWithoutNonFinite_eq_self_iff items]

theorem fieldsWithoutNonFinite_eq_self_iff : ∀ fields : List (String × Value),
    fieldsWithoutNonFinite fields = fields ↔ fieldsAreFinite fields = true
  | [] => by simp [fieldsWithoutNonFinite, fieldsAreFinite]
  | (name, value) :: fields => by
    simp [fieldsWithoutNonFinite, fieldsAreFinite, withoutNonFinite_eq_self_iff value,
      fieldsWithoutNonFinite_eq_self_iff fields]

end

mutual

/-- The number of values on the longest path into a value, itself and a plain value in it
included. -/
def depth : Value → Nat
  | array items => depthOfItems items + 1
  | object fields => depthOfFields fields + 1
  | _ => 1

def depthOfItems : List Value → Nat
  | [] => 0
  | item :: items => max item.depth (depthOfItems items)

def depthOfFields : List (String × Value) → Nat
  | [] => 0
  | (_, value) :: fields => max value.depth (depthOfFields fields)

end

mutual

def hasWellFormedNames : Value → Bool
  | array items => itemsHaveWellFormedNames items
  | object fields => fieldsHaveWellFormedNames fields
  | _ => true

def itemsHaveWellFormedNames : List Value → Bool
  | [] => true
  | item :: items => item.hasWellFormedNames && itemsHaveWellFormedNames items

def fieldsHaveWellFormedNames : List (String × Value) → Bool
  | [] => true
  | (name, value) :: fields =>
    isWellFormed name && (value.hasWellFormedNames && fieldsHaveWellFormedNames fields)

end

mutual

/-- Depth and names are all that keeps data from being written. -/
theorem check_eq_ok_iff : ∀ (room : Nat) (v : Value),
    v.check room = .ok () ↔ v.depth ≤ room ∧ v.hasWellFormedNames = true
  | 0, v => by cases v <;> simp [check, depth]
  | room + 1, array items => by
    simp [check, depth, hasWellFormedNames, checkItems_eq_ok_iff room items]
  | room + 1, object fields => by
    simp [check, depth, hasWellFormedNames, checkFields_eq_ok_iff room fields]
  | room + 1, null | room + 1, bool _ | room + 1, integer _ | room + 1, number _
  | room + 1, string _ => by simp [check, depth, hasWellFormedNames]

theorem checkItems_eq_ok_iff : ∀ (room : Nat) (items : List Value),
    checkItems room items = .ok () ↔
      depthOfItems items ≤ room ∧ itemsHaveWellFormedNames items = true
  | room, [] => by simp [checkItems, depthOfItems, itemsHaveWellFormedNames]
  | room, item :: items => by
    have hitem := check_eq_ok_iff room item
    have hitems := checkItems_eq_ok_iff room items
    rw [checkItems, depthOfItems, itemsHaveWellFormedNames, max_le_iff, Bool.and_eq_true,
      and_and_and_comm, ← hitem, ← hitems]
    cases item.check room <;> simp

theorem checkFields_eq_ok_iff : ∀ (room : Nat) (fields : List (String × Value)),
    checkFields room fields = .ok () ↔
      depthOfFields fields ≤ room ∧ fieldsHaveWellFormedNames fields = true
  | room, [] => by simp [checkFields, depthOfFields, fieldsHaveWellFormedNames]
  | room, (name, value) :: fields => by
    have hname := utf8_check_eq_ok_iff (s := name)
    have hvalue := check_eq_ok_iff room value
    have hfields := checkFields_eq_ok_iff room fields
    rw [checkFields, depthOfFields, fieldsHaveWellFormedNames, max_le_iff, Bool.and_eq_true,
      Bool.and_eq_true, and_left_comm, and_and_and_comm, ← hname, ← hvalue, ← hfields]
    cases Repertoire.utf8.check name.toList with
    | error e => simp
    | ok => cases value.check room <;> simp

end

def field? : Value → String → Option Value
  | object fields, name => Fields.get? fields name
  | _, _ => none

end Json.Value

/-- What an error is read from: a null, or an object with a type. -/
inductive ReportError.Reads : Value → Option ReportError → Prop
  | missing : Reads .null none
  | object {fields : Fields} {type : String}
      (htype : Fields.get? fields "type" = some (.string type)) :
      Reads (.object fields) (some ⟨type, Value.ofOption (Fields.get? fields "data")⟩)

theorem ReportError.Reads.filter_data {v : Value} {error : Option ReportError}
    (h : ReportError.Reads v error) :
    (v.field? "data").filter (!·.isNull) = (error.map (·.data)).filter (!·.isNull) := by
  have hfound (found : Option Value) :
      found.filter (!·.isNull) = (some (Value.ofOption found)).filter (!·.isNull) := by
    cases found <;> rfl
  cases h with
  | missing => rfl
  | object => exact hfound _

theorem map_eq_ok_iff {ε α β : Type} {x : Except ε α} {f : α → β} {b : β} :
    x.map f = .ok b ↔ ∃ a, x = .ok a ∧ f a = b := by
  cases x <;> simp [Except.map]

theorem ReportError.ofFields_eq_ok_iff {fields : Fields} {e : ReportError} :
    ofFields fields = .ok e ↔ ∃ type, Fields.get? fields "type" = some (.string type) ∧
      ⟨type, Value.ofOption (Fields.get? fields "data")⟩ = e := by
  simp only [ofFields, map_eq_ok_iff, requiredField_eq_ok_iff, lookUp_self, checkText_eq_ok_iff,
    exists_eq_right]

namespace Report

variable {fields : Fields} {r : Report} {v w : Value}

theorem checkStatus_eq_ok_iff {status : Status} :
    checkStatus v = .ok status ↔ v = .string status.code := by
  cases v with
  | string s =>
    simp only [checkStatus, Value.string.injEq]
    split_ifs with hsuccess hfailure
    · subst hsuccess
      cases status <;> simp [Status.code]
    · subst hfailure
      cases status <;> simp [Status.code]
    · cases status <;> simp_all
  | _ => simp [checkStatus]

theorem errorField_eq_ok_iff {error : Option ReportError} :
    errorField fields = .ok error ↔
      ReportError.Reads (Value.ofOption (Fields.get? fields "error")) error := by
  have hnull : Except.ok (ε := List Issue) none = .ok error ↔ ReportError.Reads .null error := by
    constructor
    · rintro ⟨⟩
      exact .missing
    · rintro ⟨⟩
      rfl
  unfold errorField
  split
  · rename_i hget
    simp only [hget, Value.ofOption, Option.getD_none, hnull]
  · rename_i hget
    simp only [hget, Value.ofOption, Option.getD_some, hnull]
  · rename_i value hvalue hget
    rw [mapError_eq_ok_iff, hget]
    cases value with
    | null => exact absurd rfl hvalue
    | object errorFields =>
      constructor
      · intro h
        obtain ⟨e, he, rfl⟩ := map_eq_ok_iff.1 h
        obtain ⟨type, htype, rfl⟩ := ReportError.ofFields_eq_ok_iff.1 he
        exact .object htype
      · intro h
        cases h with
        | object htype =>
          exact map_eq_ok_iff.2 ⟨_, ReportError.ofFields_eq_ok_iff.2 ⟨_, htype, rfl⟩, rfl⟩
    | _ => constructor <;> rintro ⟨⟩

/-- The report is what the fields of an object say. -/
structure Reads (fields : Fields) (r : Report) : Prop where
  commandId : (lookUp fields "commandId" "command_id").2 = some (.string r.commandId)
  status : Fields.get? fields "status" = some (.string r.status.code)
  error : ReportError.Reads (Value.ofOption (Fields.get? fields "error")) r.error

theorem ofFields_eq_ok_iff : ofFields fields = .ok r ↔ Reads fields r := by
  have hcommandId (id : String) :
      requiredField fields "commandId" "command_id" checkText = .ok id ↔
        (lookUp fields "commandId" "command_id").2 = some (.string id) := by
    simp only [requiredField_eq_ok_iff, checkText_eq_ok_iff, exists_eq_right]
  have hstatus (status : Status) :
      requiredField fields "status" "status" checkStatus = .ok status ↔
        Fields.get? fields "status" = some (.string status.code) := by
    simp only [requiredField_eq_ok_iff, lookUp_self, checkStatus_eq_ok_iff, exists_eq_right]
  constructor
  · intro h
    unfold ofFields at h
    split at h
    · rename_i id status error hid hcode herror
      obtain rfl := Except.ok.inj h
      exact ⟨(hcommandId id).1 hid, (hstatus status).1 hcode, errorField_eq_ok_iff.1 herror⟩
    · cases h
  · rintro ⟨hid, hcode, herror⟩
    unfold ofFields
    rw [(hcommandId _).2 hid, (hstatus _).2 hcode, errorField_eq_ok_iff.2 herror]

theorem decode_eq_ok_iff : decode v = .ok r ↔ ∃ fields, v = .object fields ∧ Reads fields r := by
  simp only [decode, decodeObject, mapError_eq_ok_iff, ← ofFields_eq_ok_iff]
  cases v <;> simp [checkObject]

end Report

def ReportError.withoutNonFinite (e : ReportError) : ReportError :=
  { e with data := e.data.withoutNonFinite }

theorem ReportError.encode_of_ne_null {e : ReportError} (h : e.data ≠ .null) :
    e.encode = .object [("type", .string e.type), ("data", e.data.withoutNonFinite)] := by
  have hnull : e.data.isNull = false := by simpa [← Value.isNull_eq_true] using h
  simp [encode, hnull]

theorem ReportError.reads_encode (e : ReportError) :
    Reads e.encode (some e.withoutNonFinite) := by
  by_cases hnull : e.data = .null
  · obtain ⟨type, data⟩ := e
    obtain rfl : data = .null := hnull
    exact .object rfl
  · rw [encode_of_ne_null hnull]
    exact .object rfl

namespace Report

variable {r : Report} {v w : Value}

/-- What is written of a report is read as that report, less the numbers that are no JSON. -/
theorem decode_encode (r : Report) :
    decode r.encode = .ok { r with error := r.error.map ReportError.withoutNonFinite } := by
  refine decode_eq_ok_iff.2 ⟨_, rfl, ⟨rfl, rfl, ?_⟩⟩
  obtain ⟨id, status, error⟩ := r
  cases error with
  | none => exact .missing
  | some e => exact e.reads_encode

def errorData? (v : Value) : Option Value := (v.field? "error").bind (·.field? "data")

/-- A document stands for a report: the one is read from the other, which is what is written of
it. Nothing is spelt out that is missing, and the data are those of any document that the report
is read from. -/
structure IsWireForm (r : Report) (w : Value) : Prop where
  encodes : r.wire? = .ok w
  decodes : decode w = .ok r
  error_ne_null : w.field? "error" ≠ some .null
  data_ne_null : errorData? w ≠ some .null
  keeps : ∀ v, decode v = .ok r → errorData? w = (errorData? v).filter (!·.isNull)

/-- The data can be written and are JSON. -/
def HasPlainData (r : Report) : Prop :=
  ∀ e ∈ r.error, (e.data.depth ≤ greatestDepth ∧ e.data.hasWellFormedNames = true) ∧
    e.data.isFinite = true

theorem wire?_eq_ok_iff :
    r.wire? = .ok w ↔
      (∀ e ∈ r.error, e.data.depth ≤ greatestDepth ∧ e.data.hasWellFormedNames = true) ∧
        r.encode = w := by
  unfold wire?
  cases herror : r.error with
  | none => simp
  | some e => simp [map_eq_ok_iff, ← Value.check_eq_ok_iff, Unique.exists_iff]

example : wire? ⟨"c", .failure, some ⟨"t", .object [(ofPoints [.half 0], .null)]⟩⟩
    = .error (.unwritable ⟨.utf8, 0, [.half 0]⟩) := rfl

theorem decode_encode_eq_self_iff :
    decode r.encode = .ok r ↔ ∀ e ∈ r.error, e.data.isFinite = true := by
  rw [decode_encode]
  obtain ⟨id, status, error⟩ := r
  cases error with
  | none => simp
  | some e =>
    obtain ⟨type, data⟩ := e
    simp [ReportError.withoutNonFinite, Value.withoutNonFinite_eq_self_iff]

theorem filter_eq_self_of_ne_null {found : Option Value} (h : found ≠ some .null) :
    found.filter (!·.isNull) = found := by
  cases found with
  | none => rfl
  | some v => exact Option.filter_some_pos (by simpa [← Value.isNull_eq_true] using h)

theorem filter_errorData?_of_decode (h : decode v = .ok r) :
    (errorData? v).filter (!·.isNull) = (r.error.map (·.data)).filter (!·.isNull) := by
  obtain ⟨fields, rfl, -, -, herror⟩ := decode_eq_ok_iff.1 h
  have hdata : errorData? (.object fields)
      = (Value.ofOption (Fields.get? fields "error")).field? "data" := by
    unfold errorData?
    cases hget : Fields.get? fields "error" <;> simp [Value.field?, Value.ofOption, hget]
  rw [hdata, herror.filter_data]

theorem error_encode_ne_null (r : Report) : r.encode.field? "error" ≠ some .null := by
  obtain ⟨id, status, error⟩ := r
  cases error <;> exact nofun

theorem errorData?_encode_ne_null (h : ∀ e ∈ r.error, e.data.isFinite = true) :
    errorData? r.encode ≠ some .null := by
  obtain ⟨id, status, error⟩ := r
  cases error with
  | none => exact nofun
  | some e =>
    have herror : errorData? (encode ⟨id, status, some e⟩) = e.encode.field? "data" := rfl
    rw [herror]
    by_cases hnull : e.data = .null
    · simp [ReportError.encode, hnull, Value.field?, Fields.get?]
    · have hdata : e.encode.field? "data" = some e.data.withoutNonFinite := by
        rw [ReportError.encode_of_ne_null hnull]
        rfl
      rw [hdata, (Value.withoutNonFinite_eq_self_iff _).2 (h e rfl)]
      exact fun heq => hnull (Option.some.inj heq)

/-- A report has a wire form exactly if its data are JSON, do not nest too deep and name no field
with a lone half. -/
theorem exists_isWireForm_iff (r : Report) : (∃ w, r.IsWireForm w) ↔ r.HasPlainData := by
  constructor
  · rintro ⟨w, h⟩ e he
    obtain ⟨hwritten, rfl⟩ := wire?_eq_ok_iff.1 h.encodes
    exact ⟨hwritten e he, decode_encode_eq_self_iff.1 h.decodes e he⟩
  · intro h
    have hwritten := fun e he => (h e he).1
    have hfinite : ∀ e ∈ r.error, e.data.isFinite = true := fun e he => (h e he).2
    have hdecodes : decode r.encode = .ok r := decode_encode_eq_self_iff.2 hfinite
    have hnull := errorData?_encode_ne_null hfinite
    refine ⟨r.encode, wire?_eq_ok_iff.2 ⟨hwritten, rfl⟩, hdecodes, r.error_encode_ne_null, hnull,
      ?_⟩
    intro v hv
    calc errorData? r.encode
        = (errorData? r.encode).filter (!·.isNull) := (filter_eq_self_of_ne_null hnull).symm
      _ = (r.error.map (·.data)).filter (!·.isNull) := filter_errorData?_of_decode hdecodes
      _ = (errorData? v).filter (!·.isNull) := (filter_errorData?_of_decode hv).symm

def deepData : Nat → Value
  | 0 => .integer 1
  | n + 1 => .array [deepData n]

theorem depth_deepData (n : Nat) : (deepData n).depth = n + 1 := by
  induction n with
  | zero => rfl
  | succ n ih => simp [deepData, Value.depth, Value.depthOfItems, ih]

/-- Not every report can be written. -/
theorem not_forall_isWireForm : ¬ ∀ r : Report, ∃ w, r.IsWireForm w := by
  intro h
  obtain ⟨w, hw⟩ := h ⟨"c", .failure, some ⟨"t", deepData 255⟩⟩
  have hdepth := ((wire?_eq_ok_iff.1 hw.encodes).1 _ rfl).1
  rw [depth_deepData] at hdepth
  exact absurd hdepth (by decide)

end Report

end PolicyAgent

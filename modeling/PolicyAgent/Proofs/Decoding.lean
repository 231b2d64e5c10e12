import PolicyAgent.Platform.Client
import PolicyAgent.Proofs.Time.WholeMinutes

/-!
# Types and data of listed commands

A listing is all or nothing, so what is asked of a single command matters to all others. Besides
an identifier and a date, a command may have a type, which has to be a text, and any data. A text
that is no known type and data that do not fit the type come to light when the payload is read
and spoil nothing else. A type that is no text makes the listing fail.
-/
namespace PolicyAgent

open PolicyAgent.Json PolicyAgent.Platform PolicyAgent.Time

section

variable {α : Type} {fields : Fields} {wireName plainName name : String}

theorem requiredField_eq_ok_iff {check : Value → Except IssueKind α} {a : α} :
    requiredField fields wireName plainName check = .ok a ↔
      ∃ v, (lookUp fields wireName plainName).2 = some v ∧ check v = .ok a := by
  unfold requiredField
  split
  · rename_i hlookUp
    simp [hlookUp]
  · rename_i hlookUp
    simp [hlookUp, mapError_eq_ok_iff]

theorem lookUp_self : (lookUp fields name name).2 = Fields.get? fields name := by
  unfold lookUp
  cases Fields.get? fields name <;> rfl

theorem checkText_eq_ok_iff {v : Value} {s : String} : checkText v = .ok s ↔ v = .string s := by
  cases v <;> simp [checkText]

theorem optionalField_checkText_eq_ok_iff {text : Option String} :
    optionalField fields name checkText = .ok text ↔
      Value.ofOption (Fields.get? fields name) = Value.ofText? text := by
  unfold optionalField
  split
  · rename_i hget
    cases text <;> simp [hget, Value.ofOption, Value.ofText?]
  · rename_i hget
    cases text <;> simp [hget, Value.ofOption, Value.ofText?]
  · rename_i v hnull hget
    rw [mapError_eq_ok_iff, hget]
    cases v <;> cases text <;> simp_all [checkText, Value.ofOption, Value.ofText?, Except.map]

end

/-- An object with a text as its identifier and a creation date that can be read. -/
structure HasIdAndDate (fields : Fields) : Prop where
  id : ∃ s, Fields.get? fields "id" = some (.string s)
  date : ∃ v t, (lookUp fields "createdAt" "created_at").2 = some v ∧ readCreationDate v = .ok t

/-- The type is a text, null or absent. -/
def HasTextType (fields : Fields) : Prop :=
  ∃ type, Value.ofOption (Fields.get? fields "type") = Value.ofText? type

namespace Command

variable {fields : Fields} {c : Command}

/-- The command is what the fields of an object say. -/
structure Reads (fields : Fields) (c : Command) : Prop where
  id : Fields.get? fields "id" = some (.string c.id)
  createdAt : ∃ v t, (lookUp fields "createdAt" "created_at").2 = some v ∧
    readCreationDate v = .ok t ∧ c.createdAt = t.withOffset
  type : Value.ofOption (Fields.get? fields "type") = Value.ofText? c.type
  data : c.data = Value.ofOption (Fields.get? fields "data")

theorem requiredField_id_eq_ok_iff {id : String} :
    requiredField fields "id" "id" checkText = .ok id ↔
      Fields.get? fields "id" = some (.string id) := by
  rw [requiredField_eq_ok_iff, lookUp_self]
  simp only [checkText_eq_ok_iff, exists_eq_right]

theorem requiredField_createdAt_eq_ok_iff {t : Timestamp} :
    requiredField fields "createdAt" "created_at" checkDate = .ok t ↔
      ∃ v, (lookUp fields "createdAt" "created_at").2 = some v ∧ readCreationDate v = .ok t := by
  simp only [requiredField_eq_ok_iff, checkDate, mapError_eq_ok_iff]

theorem ofFields_eq_ok_iff : ofFields fields = .ok c ↔ Reads fields c := by
  constructor
  · intro h
    unfold ofFields at h
    split at h
    · rename_i id t type hid hdate htype
      obtain rfl := Except.ok.inj h
      obtain ⟨v, hlookUp, hread⟩ := requiredField_createdAt_eq_ok_iff.1 hdate
      exact ⟨requiredField_id_eq_ok_iff.1 hid, ⟨v, t, hlookUp, hread, rfl⟩,
        optionalField_checkText_eq_ok_iff.1 htype, rfl⟩
    · cases h
  · rintro ⟨hid, ⟨v, t, hlookUp, hread, hcreatedAt⟩, htype, hdata⟩
    unfold ofFields
    rw [requiredField_id_eq_ok_iff.2 hid,
      requiredField_createdAt_eq_ok_iff.2 ⟨v, hlookUp, hread⟩,
      optionalField_checkText_eq_ok_iff.2 htype]
    simp only [← hcreatedAt, ← hdata]

theorem decode_object_eq_ok_iff : decode (.object fields) = .ok c ↔ Reads fields c :=
  mapError_eq_ok_iff.trans ofFields_eq_ok_iff

theorem exists_decode_object_iff (h : HasIdAndDate fields) :
    (∃ c, decode (.object fields) = .ok c) ↔ HasTextType fields := by
  simp only [decode_object_eq_ok_iff]
  constructor
  · rintro ⟨c, hreads⟩
    exact ⟨c.type, hreads.type⟩
  · rintro ⟨type, htype⟩
    obtain ⟨⟨id, hid⟩, v, t, hlookUp, hread⟩ := h
    exact ⟨⟨id, t.withOffset, type, Value.ofOption (Fields.get? fields "data")⟩,
      hid, ⟨v, t, hlookUp, hread, rfl⟩, htype, rfl⟩

/-- A type that is no text is the one thing that such a command can be refused for. -/
theorem decode_object_of_not_hasTextType (h : HasIdAndDate fields) {v : Value}
    (hget : Fields.get? fields "type" = some v) (htype : ¬ HasTextType fields) :
    decode (.object fields) = .error ⟨.command, [⟨.notAText, ["type"], v.typeName⟩]⟩ := by
  obtain ⟨⟨id, hid⟩, date, t, hlookUp, hread⟩ := h
  have hfield : optionalField fields "type" checkText
      = .error [⟨.notAText, ["type"], v.typeName⟩] := by
    unfold optionalField
    rw [hget]
    cases v with
    | null => exact absurd ⟨none, by rw [hget]; rfl⟩ htype
    | string s => exact absurd ⟨some s, by rw [hget]; rfl⟩ htype
    | _ => rfl
  have hfields : ofFields fields = .error [⟨.notAText, ["type"], v.typeName⟩] := by
    unfold ofFields
    rw [requiredField_id_eq_ok_iff.2 hid,
      requiredField_createdAt_eq_ok_iff.2 ⟨date, hlookUp, hread⟩, hfield]
    rfl
  calc decode (.object fields)
      = (ofFields fields).mapError fun issues => ⟨.command, issues⟩ := rfl
    _ = .error ⟨.command, [⟨.notAText, ["type"], v.typeName⟩]⟩ := by rw [hfields]; rfl

/-- The model that some data were read as, or were refused as. -/
def readAs : Except Invalid Payload → Option Model
  | .ok (.setPolicy ..) => some .setPolicy
  | .ok (.deletePolicy _) => some .deletePolicy
  | .ok (.unsupported _) => none
  | .error e => some e.model

theorem readAs_decodeObject {model : Model} {ofFields : Fields → Checked Payload}
    (h : ∀ fields p, ofFields fields = .ok p → readAs (.ok p) = some model) (v : Value) :
    readAs (decodeObject model ofFields v) = some model := by
  unfold decodeObject
  cases hcheck : checkObject model ofFields v with
  | error issues => rfl
  | ok p =>
    unfold checkObject at hcheck
    split at hcheck
    · exact h _ p hcheck
    · cases hcheck

theorem readAs_setOfFields {fields : Fields} {p : Payload}
    (h : Payload.setOfFields fields = .ok p) : readAs (.ok p) = some .setPolicy := by
  unfold Payload.setOfFields at h
  split at h
  · obtain rfl := Except.ok.inj h
    rfl
  · cases h

theorem readAs_deleteOfFields {fields : Fields} {p : Payload}
    (h : Payload.deleteOfFields fields = .ok p) : readAs (.ok p) = some .deletePolicy := by
  unfold Payload.deleteOfFields at h
  cases hfield : requiredField fields "ingressId" "ingress_id" checkText with
  | error issues =>
    rw [hfield] at h
    cases h
  | ok id =>
    rw [hfield] at h
    obtain rfl := Except.ok.inj h
    rfl

theorem readAs_payload (c : Command) :
    readAs c.payload = if c.type = some setPolicyType then some .setPolicy
      else if c.type = some deletePolicyType then some .deletePolicy else none := by
  unfold payload
  split_ifs
  · exact readAs_decodeObject (fun _ _ => readAs_setOfFields) _
  · exact readAs_decodeObject (fun _ _ => readAs_deleteOfFields) _
  · rfl

/-- The type alone decides what the data are read as, and unknown types are unsupported. -/
structure PayloadFitsType (c : Command) : Prop where
  set : readAs c.payload = some .setPolicy ↔ c.type = some setPolicyType
  delete : readAs c.payload = some .deletePolicy ↔ c.type = some deletePolicyType
  unsupported : c.payload = .ok (.unsupported c.type) ↔
    c.type ≠ some setPolicyType ∧ c.type ≠ some deletePolicyType

theorem payloadFitsType (c : Command) : c.PayloadFitsType where
  set := by
    rw [readAs_payload]
    split_ifs <;> simp_all
  delete := by
    rw [readAs_payload]
    split_ifs <;> simp_all [setPolicyType, deletePolicyType]
  unsupported := by
    constructor
    · intro h
      have hnone : readAs c.payload = none := congrArg readAs h
      rw [readAs_payload] at hnone
      split_ifs at hnone with hset hdelete
      exact ⟨hset, hdelete⟩
    · rintro ⟨hset, hdelete⟩
      unfold payload
      rw [if_neg hset, if_neg hdelete]

end Command

theorem exists_mapM_eq_ok_iff {ε α β : Type} {f : α → Except ε β} {xs : List α} :
    (∃ ys, xs.mapM f = .ok ys) ↔ ∀ x ∈ xs, ∃ y, f x = .ok y := by
  induction xs with
  | nil => exact ⟨fun _ => by simp, fun _ => ⟨[], rfl⟩⟩
  | cons x xs ih =>
    rw [List.forall_mem_cons, ← ih, List.mapM_cons]
    cases hx : f x with
    | error e => exact ⟨nofun, nofun⟩
    | ok y =>
      cases hxs : xs.mapM f with
      | error e => exact ⟨nofun, nofun⟩
      | ok ys => exact ⟨fun _ => ⟨⟨y, rfl⟩, ys, rfl⟩, fun _ => ⟨y :: ys, rfl⟩⟩

theorem exists_readListing_iff {r : Response} {items : List Value}
    (h : readOctets r.body = .ok (.array items)) :
    (∃ commands, Client.readListing r = .ok commands) ↔
      ∀ item ∈ items, ∃ c, Command.decode item = .ok c := by
  have hread : Client.readListing r
      = items.mapM fun item => (Command.decode item).mapError .invalid := by
    unfold Client.readListing
    rw [h]
    rfl
  rw [hread, exists_mapM_eq_ok_iff]
  simp only [mapError_eq_ok_iff]

/-- All that decides whether an object is a command is whether its type is a text. Then a listing
does not fail because of it, and the type decides what its data are read as. -/
structure DecidedByType (fields : Fields) : Prop where
  decodes : HasTextType fields →
    ∃ c, Command.decode (.object fields) = .ok c ∧ c.Reads fields ∧ c.PayloadFitsType
  refused : ∀ v, Fields.get? fields "type" = some v → ¬ HasTextType fields →
    Command.decode (.object fields) = .error ⟨.command, [⟨.notAText, ["type"], v.typeName⟩]⟩
  listing : ∀ (r : Response) (before after : List Value),
    readOctets r.body = .ok (.array (before ++ .object fields :: after)) →
      ((∃ commands, Client.readListing r = .ok commands) ↔
        HasTextType fields ∧ ∀ item ∈ before ++ after, ∃ c, Command.decode item = .ok c)

/-- With an identifier and a date, an object is a command unless its type is no text. -/
theorem HasIdAndDate.decidedByType {fields : Fields} (h : HasIdAndDate fields) :
    DecidedByType fields where
  decodes htype := by
    obtain ⟨c, hdecode⟩ := (Command.exists_decode_object_iff h).2 htype
    exact ⟨c, hdecode, Command.decode_object_eq_ok_iff.1 hdecode, c.payloadFitsType⟩
  refused _ hget htype := Command.decode_object_of_not_hasTextType h hget htype
  listing r before after hitems := by
    rw [exists_readListing_iff hitems, ← Command.exists_decode_object_iff h]
    simp only [List.mem_append, List.mem_cons]
    constructor
    · intro hall
      exact ⟨hall _ (.inr (.inl rfl)), fun item hitem => hall item (hitem.imp_right .inr)⟩
    · rintro ⟨hdecode, hothers⟩ item (hitem | rfl | hitem)
      · exact hothers item (.inl hitem)
      · exact hdecode
      · exact hothers item (.inr hitem)

def fieldsOfType (type : Value) : Fields :=
  [("id", .string "1"), ("createdAt", .string "2024-03-01T00:00:00Z"), ("type", type),
    ("data", .integer 42)]

theorem hasIdAndDate_fieldsOfType (type : Value) : HasIdAndDate (fieldsOfType type) where
  id := ⟨_, rfl⟩
  date := ⟨_, _, rfl, rfl⟩

theorem decidedByType_unknown :
    HasIdAndDate (fieldsOfType (.string "future-command")) ∧
      HasTextType (fieldsOfType (.string "future-command")) ∧
      DecidedByType (fieldsOfType (.string "future-command")) :=
  ⟨hasIdAndDate_fieldsOfType _, ⟨some "future-command", rfl⟩,
    (hasIdAndDate_fieldsOfType _).decidedByType⟩

/-- Not everything can be the type of a command. -/
theorem not_forall_decode :
    ¬ ∀ fields, HasIdAndDate fields → ∃ c, Command.decode (.object fields) = .ok c := by
  intro h
  obtain ⟨c, hdecode⟩ := h _ (hasIdAndDate_fieldsOfType (.integer 42))
  have htype := (Command.decode_object_eq_ok_iff.1 hdecode).type
  cases hc : c.type with
  | none => simp [hc, fieldsOfType, Fields.get?, Value.ofOption, Value.ofText?] at htype
  | some s => simp [hc, fieldsOfType, Fields.get?, Value.ofOption, Value.ofText?] at htype

end PolicyAgent

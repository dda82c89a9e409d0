import CedraIndexer.Decode

/-!
# Decoding ANS table items, resources and events

`ans_utils.rs`. Each decoder matches a type against a short list of known ANS types and runs
`serde_json` on the data as the type it matched. Data that does not decode as that type is an
error that names the version and the type; an unknown type decodes to nothing. Table items are
matched on the bare type name, since the table handle already told the ANS table apart. Write
resources and events are matched on the type qualified by the v2 contract's address. The three
decoders are `decodeByType` at their own lists of types.

The typed extractors pick one variant out of a decoder's result. `NameRecordV2::from_write_resource`
and `SubdomainExtV2::from_write_resource` propagate the decoder's error with `?`;
`RenewNameEvent::from_event` and `SetReverseLookupEvent::from_event` unwrap it. Each extractor
runs the whole decoder, whatever the type of the resource or event, so each fails on malformed
data of the other type too, and there the two event extractors panic.
-/

namespace CedraIndexer

section DecodeByType

variable {α : Type} {typeStr type₁ type₂ : String} {data : MoveValue}
  {asType₁ asType₂ : MoveValue → Option α}

/-- Of two distinct known types, data decodes to a variant exactly when its type is one of them
and it is a value of that one. -/
theorem decodeByType_pair_eq_ok_some (hne : type₁ ≠ type₂) {a : α} :
    decodeByType typeStr data [(type₁, asType₁), (type₂, asType₂)] = .ok (some a) ↔
      (typeStr = type₁ ∧ asType₁ data = some a) ∨ (typeStr = type₂ ∧ asType₂ data = some a) := by
  rw [decodeByType_eq_ok_some_iff]
  by_cases h₁ : typeStr = type₁
  · subst h₁
    simp [hne]
  · by_cases h₂ : typeStr = type₂ <;> simp [h₁, h₂, hne.symm]

/-- Of two distinct known types, decoding fails exactly when the type is one of them and the data
is not a value of that one. -/
theorem decodeByType_pair_eq_error (hne : type₁ ≠ type₂) :
    decodeByType typeStr data [(type₁, asType₁), (type₂, asType₂)] = .error () ↔
      (typeStr = type₁ ∧ asType₁ data = none) ∨ (typeStr = type₂ ∧ asType₂ data = none) := by
  rw [decodeByType_eq_error_iff]
  by_cases h₁ : typeStr = type₁
  · subst h₁
    simp [hne]
  · by_cases h₂ : typeStr = type₂ <;> simp [h₁, h₂, hne.symm]

/-- An unknown type decodes to nothing. -/
theorem decodeByType_pair_of_ne (h₁ : typeStr ≠ type₁) (h₂ : typeStr ≠ type₂) :
    decodeByType typeStr data [(type₁, asType₁), (type₂, asType₂)] = .ok none :=
  decodeByType_of_lookup_none (by simp [h₁, h₂])

end DecodeByType

/-- Two types qualified by the same address differ where their names do. -/
theorem append_ne_append_left {address x y : String} (h : x ≠ y) : address ++ x ≠ address ++ y :=
  fun e => h (String.ext (by
    simpa only [String.data_append, List.append_cancel_left_eq] using congrArg String.data e))

/-- `AnsTableItem`. -/
inductive AnsTableItem where
  | nameRecordKeyV1 (v : NameRecordKeyV1)
  | nameRecordV1 (v : NameRecordV1)
  deriving DecidableEq, Repr

/-- `AnsTableItem::from_table_item`, matching the type name only. -/
def AnsTableItem.fromTableItem (dec : Decoders) (dataTypeName : String) (data : MoveValue)
    (txnVersion : Int) : Except String (Option AnsTableItem) :=
  (decodeByType dataTypeName data
    [("NameRecordKeyV1", fun | .nameRecordKeyV1 inner => some (.nameRecordKeyV1 inner) | _ => none),
      ("NameRecordV1", fun | .nameRecordV1 inner => some (.nameRecordV1 inner) | _ => none)]
    ).mapError fun _ => parseTypeError txnVersion dataTypeName (dec.debugJsonText data)

/-- `AnsWriteResource`. -/
inductive AnsWriteResource where
  | nameRecordV2 (v : NameRecordV2)
  | subdomainExtV2 (v : SubdomainExtV2)
  deriving DecidableEq, Repr

/-- `AnsWriteResource::from_write_resource`, matching the outer type of the resource. -/
def AnsWriteResource.fromWriteResource (dec : Decoders) (writeResource : WriteResource)
    (ansV2ContractAddress : String) (txnVersion : Int) : Except String (Option AnsWriteResource) :=
  let typeStr := dec.getOuterTypeFromWriteResource writeResource
  (decodeByType typeStr writeResource.data
    [(ansV2ContractAddress ++ "::v2_1_domains::NameRecord",
        fun | .nameRecordV2 inner => some (.nameRecordV2 inner) | _ => none),
      (ansV2ContractAddress ++ "::v2_1_domains::SubdomainExt",
        fun | .subdomainExtV2 inner => some (.subdomainExtV2 inner) | _ => none)]).mapError
    fun _ => parseTypeError txnVersion typeStr (dec.debugJsonText writeResource.data)

namespace AnsWriteResource

variable {dec : Decoders} {writeResource : WriteResource} {ansV2ContractAddress : String}
  {txnVersion : Int}

/-- A resource of either ANS type whose data is not of that type fails to decode. -/
theorem fromWriteResource_of_malformed
    (h : (dec.getOuterTypeFromWriteResource writeResource =
          ansV2ContractAddress ++ "::v2_1_domains::NameRecord" ∧
        ∀ r, writeResource.data ≠ .nameRecordV2 r) ∨
      (dec.getOuterTypeFromWriteResource writeResource =
          ansV2ContractAddress ++ "::v2_1_domains::SubdomainExt" ∧
        ∀ e, writeResource.data ≠ .subdomainExtV2 e)) :
    fromWriteResource dec writeResource ansV2ContractAddress txnVersion =
      .error (parseTypeError txnVersion (dec.getOuterTypeFromWriteResource writeResource)
        (dec.debugJsonText writeResource.data)) := by
  rw [fromWriteResource, (decodeByType_pair_eq_error (append_ne_append_left (by decide))).2]
  · rfl
  · rcases h with ⟨htype, hdata⟩ | ⟨htype, hdata⟩
    · exact .inl ⟨htype, by split <;> simp_all⟩
    · exact .inr ⟨htype, by split <;> simp_all⟩

end AnsWriteResource

/-- `V2AnsEvent`. -/
inductive V2AnsEvent where
  | setReverseLookupEvent (v : SetReverseLookupEvent)
  | renewNameEvent (v : RenewNameEvent)
  deriving DecidableEq, Repr

namespace V2AnsEvent

/-- `V2AnsEvent::is_event_supported`. -/
def isEventSupported (eventType ansV2ContractAddress : String) : Bool :=
  [ansV2ContractAddress ++ "::v2_1_domains::SetReverseLookupEvent",
    ansV2ContractAddress ++ "::v2_1_domains::RenewNameEvent"].contains eventType

/-- The known event types and their variants. -/
def eventTypes (ansV2ContractAddress : String) : List (String × (MoveValue → Option V2AnsEvent)) :=
  [(ansV2ContractAddress ++ "::v2_1_domains::SetReverseLookupEvent",
      fun | .setReverseLookupEvent inner => some (.setReverseLookupEvent inner) | _ => none),
    (ansV2ContractAddress ++ "::v2_1_domains::RenewNameEvent",
      fun | .renewNameEvent inner => some (.renewNameEvent inner) | _ => none)]

/-- `V2AnsEvent::from_event`: an unsupported type is nothing before any decoding. -/
def fromEvent (dec : Decoders) (event : Event) (ansV2ContractAddress : String) (txnVersion : Int) :
    Except String (Option V2AnsEvent) :=
  let typeStr := event.typeStr
  if !isEventSupported typeStr ansV2ContractAddress then .ok none
  else
    (decodeByType typeStr event.data (eventTypes ansV2ContractAddress)).mapError
      fun _ => parseTypeError txnVersion typeStr (dec.debugJsonText event.data)

variable {dec : Decoders} {event : Event} {ansV2ContractAddress : String} {txnVersion : Int}

theorem eventTypes_ne : ansV2ContractAddress ++ "::v2_1_domains::SetReverseLookupEvent" ≠
    ansV2ContractAddress ++ "::v2_1_domains::RenewNameEvent" :=
  append_ne_append_left (by decide)

/-- The `is_event_supported` guard changes nothing: an unsupported type decodes to nothing
anyway. -/
theorem fromEvent_eq : fromEvent dec event ansV2ContractAddress txnVersion =
    (decodeByType event.typeStr event.data (eventTypes ansV2ContractAddress)).mapError
      fun _ => parseTypeError txnVersion event.typeStr (dec.debugJsonText event.data) := by
  unfold fromEvent
  dsimp only
  split
  · rename_i h
    simp only [isEventSupported, List.contains_cons, List.contains_nil, Bool.or_false,
      Bool.not_eq_true', Bool.or_eq_false_iff, beq_eq_false_iff_ne] at h
    rw [eventTypes, decodeByType_pair_of_ne h.1 h.2]
    rfl
  · rfl

/-- An event of either supported type whose data is not of that type fails to decode. -/
theorem fromEvent_of_malformed
    (h : (event.typeStr = ansV2ContractAddress ++ "::v2_1_domains::SetReverseLookupEvent" ∧
        ∀ e, event.data ≠ .setReverseLookupEvent e) ∨
      (event.typeStr = ansV2ContractAddress ++ "::v2_1_domains::RenewNameEvent" ∧
        ∀ e, event.data ≠ .renewNameEvent e)) :
    fromEvent dec event ansV2ContractAddress txnVersion =
      .error (parseTypeError txnVersion event.typeStr (dec.debugJsonText event.data)) := by
  rw [fromEvent_eq, eventTypes, (decodeByType_pair_eq_error eventTypes_ne).2]
  · rfl
  · rcases h with ⟨htype, hdata⟩ | ⟨htype, hdata⟩
    · exact .inl ⟨htype, by split <;> simp_all⟩
    · exact .inr ⟨htype, by split <;> simp_all⟩

/-- An event decodes to a variant exactly when its type is that variant's and its data a value of
it. -/
theorem fromEvent_eq_ok_some {v : V2AnsEvent} :
    fromEvent dec event ansV2ContractAddress txnVersion = .ok (some v) ↔
      (event.typeStr = ansV2ContractAddress ++ "::v2_1_domains::SetReverseLookupEvent" ∧
        ∃ e, event.data = .setReverseLookupEvent e ∧ v = .setReverseLookupEvent e) ∨
      (event.typeStr = ansV2ContractAddress ++ "::v2_1_domains::RenewNameEvent" ∧
        ∃ e, event.data = .renewNameEvent e ∧ v = .renewNameEvent e) := by
  rw [fromEvent_eq, except_mapError_eq_ok, eventTypes, decodeByType_pair_eq_ok_some eventTypes_ne]
  refine or_congr (and_congr_right fun _ => ?_) (and_congr_right fun _ => ?_) <;>
    split <;> simp_all [eq_comm]

end V2AnsEvent

/-- `if let Some(Variant(inner)) = decoded { Ok(Some(inner)) } else { Ok(None) }`: the variant
`select` picks out of a decoder's result. -/
def selectVariant {ε α β : Type} (select : α → Option β) (decoded : Except ε (Option α)) :
    Except ε (Option β) :=
  decoded.map fun a => a.bind select

section SelectVariant

variable {ε α β : Type} {select : α → Option β}

@[simp] theorem selectVariant_error (e : ε) : selectVariant select (.error e) = .error e := rfl

theorem selectVariant_eq_ok_some {decoded : Except ε (Option α)} {b : β} :
    selectVariant select decoded = .ok (some b) ↔
      ∃ a, decoded = .ok (some a) ∧ select a = some b := by
  rcases decoded with _ | _ | a <;> simp [selectVariant, Except.map]

end SelectVariant

/-- `NameRecordV2::from_write_resource`. -/
def NameRecordV2.fromWriteResource (dec : Decoders) (writeResource : WriteResource)
    (ansV2ContractAddress : String) (txnVersion : Int) : Except String (Option NameRecordV2) :=
  selectVariant (fun | .nameRecordV2 inner => some inner | _ => none)
    (AnsWriteResource.fromWriteResource dec writeResource ansV2ContractAddress txnVersion)

/-- `SubdomainExtV2::from_write_resource`. -/
def SubdomainExtV2.fromWriteResource (dec : Decoders) (writeResource : WriteResource)
    (ansV2ContractAddress : String) (txnVersion : Int) : Except String (Option SubdomainExtV2) :=
  selectVariant (fun | .subdomainExtV2 inner => some inner | _ => none)
    (AnsWriteResource.fromWriteResource dec writeResource ansV2ContractAddress txnVersion)

/-- `RenewNameEvent::from_event`, which unwraps the decoder's result. -/
def RenewNameEvent.fromEvent (dec : Decoders) (event : Event) (ansV2ContractAddress : String)
    (txnVersion : Int) : Except Fault (Option RenewNameEvent) :=
  selectVariant (fun | .renewNameEvent inner => some inner | _ => none)
    (Fault.unwrapResult (V2AnsEvent.fromEvent dec event ansV2ContractAddress txnVersion))

/-- `SetReverseLookupEvent::from_event`, which unwraps the decoder's result. -/
def SetReverseLookupEvent.fromEvent (dec : Decoders) (event : Event)
    (ansV2ContractAddress : String) (txnVersion : Int) :
    Except Fault (Option SetReverseLookupEvent) :=
  selectVariant (fun | .setReverseLookupEvent inner => some inner | _ => none)
    (Fault.unwrapResult (V2AnsEvent.fromEvent dec event ansV2ContractAddress txnVersion))

/-- The typed ANS extractors decode the data of either type they share a decoder with. On an event
of either supported type whose data is not of that type, both event extractors panic with the
decoder's context; on such a resource, both resource extractors return that context as their
error. Otherwise an event extractor returns its own type's data exactly. -/
theorem ans_extractors_fail_on_either_type (dec : Decoders) (ansV2ContractAddress : String)
    (txnVersion : Int) :
    (∀ event : Event,
      (event.typeStr = ansV2ContractAddress ++ "::v2_1_domains::SetReverseLookupEvent" ∧
          ∀ e, event.data ≠ .setReverseLookupEvent e) ∨
        (event.typeStr = ansV2ContractAddress ++ "::v2_1_domains::RenewNameEvent" ∧
          ∀ e, event.data ≠ .renewNameEvent e) →
      RenewNameEvent.fromEvent dec event ansV2ContractAddress txnVersion =
          .error (.panic (parseTypeError txnVersion event.typeStr (dec.debugJsonText event.data))) ∧
        SetReverseLookupEvent.fromEvent dec event ansV2ContractAddress txnVersion =
          .error (.panic (parseTypeError txnVersion event.typeStr
            (dec.debugJsonText event.data)))) ∧
    (∀ (event : Event) (r : RenewNameEvent),
      RenewNameEvent.fromEvent dec event ansV2ContractAddress txnVersion = .ok (some r) ↔
        event.typeStr = ansV2ContractAddress ++ "::v2_1_domains::RenewNameEvent" ∧
          event.data = .renewNameEvent r) ∧
    (∀ (event : Event) (e : SetReverseLookupEvent),
      SetReverseLookupEvent.fromEvent dec event ansV2ContractAddress txnVersion = .ok (some e) ↔
        event.typeStr = ansV2ContractAddress ++ "::v2_1_domains::SetReverseLookupEvent" ∧
          event.data = .setReverseLookupEvent e) ∧
    (∀ writeResource : WriteResource,
      (dec.getOuterTypeFromWriteResource writeResource =
          ansV2ContractAddress ++ "::v2_1_domains::NameRecord" ∧
          ∀ r, writeResource.data ≠ .nameRecordV2 r) ∨
        (dec.getOuterTypeFromWriteResource writeResource =
          ansV2ContractAddress ++ "::v2_1_domains::SubdomainExt" ∧
          ∀ e, writeResource.data ≠ .subdomainExtV2 e) →
      NameRecordV2.fromWriteResource dec writeResource ansV2ContractAddress txnVersion =
          .error (parseTypeError txnVersion (dec.getOuterTypeFromWriteResource writeResource)
            (dec.debugJsonText writeResource.data)) ∧
        SubdomainExtV2.fromWriteResource dec writeResource ansV2ContractAddress txnVersion =
          .error (parseTypeError txnVersion (dec.getOuterTypeFromWriteResource writeResource)
            (dec.debugJsonText writeResource.data))) := by
  refine ⟨fun event h => ?_, fun event r => ?_, fun event e => ?_, fun writeResource h => ?_⟩
  · simp only [RenewNameEvent.fromEvent, SetReverseLookupEvent.fromEvent,
      V2AnsEvent.fromEvent_of_malformed h]
    exact ⟨rfl, rfl⟩
  · simp only [RenewNameEvent.fromEvent, selectVariant_eq_ok_some, Fault.unwrapResult,
      except_mapError_eq_ok, V2AnsEvent.fromEvent_eq_ok_some]
    constructor
    · rintro ⟨_, ⟨-, _, -, rfl⟩ | ⟨htype, _, hdata, rfl⟩, hselect⟩ <;> cases hselect
      exact ⟨htype, hdata⟩
    · exact fun ⟨htype, hdata⟩ => ⟨_, .inr ⟨htype, r, hdata, rfl⟩, rfl⟩
  · simp only [SetReverseLookupEvent.fromEvent, selectVariant_eq_ok_some, Fault.unwrapResult,
      except_mapError_eq_ok, V2AnsEvent.fromEvent_eq_ok_some]
    constructor
    · rintro ⟨_, ⟨htype, _, hdata, rfl⟩ | ⟨-, _, -, rfl⟩, hselect⟩ <;> cases hselect
      exact ⟨htype, hdata⟩
    · exact fun ⟨htype, hdata⟩ => ⟨_, .inl ⟨htype, e, hdata, rfl⟩, rfl⟩
  · simp only [NameRecordV2.fromWriteResource, SubdomainExtV2.fromWriteResource,
      AnsWriteResource.fromWriteResource_of_malformed h, selectVariant_error, and_self]

/-- Under the contract `0xans`: a reverse lookup whose data is not one, a renewal, and a name record
resource holding a subdomain. -/
theorem ans_extractors_fail_on_a_malformed_lookup :
    let lookup : Event := ⟨"0xans::v2_1_domains::SetReverseLookupEvent", .other "{}"⟩
    let renewal : RenewNameEvent := ⟨"cedra", 7, true, ⟨[]⟩, ⟨["0xa"]⟩⟩
    let record : WriteResource :=
      ⟨"0xo", "0xk", none, "0xans::v2_1_domains::NameRecord", .subdomainExtV2 ⟨0, "pay"⟩⟩
    RenewNameEvent.fromEvent .direct lookup "0xans" 5 = .error (.panic
        (parseTypeError 5 lookup.typeStr (Decoders.direct.debugJsonText lookup.data))) ∧
      SetReverseLookupEvent.fromEvent .direct lookup "0xans" 5 = .error (.panic
        (parseTypeError 5 lookup.typeStr (Decoders.direct.debugJsonText lookup.data))) ∧
      RenewNameEvent.fromEvent .direct
        ⟨"0xans::v2_1_domains::RenewNameEvent", .renewNameEvent renewal⟩ "0xans" 5 =
        .ok (some renewal) ∧
      NameRecordV2.fromWriteResource .direct record "0xans" 5 =
        .error (parseTypeError 5 "0xans::v2_1_domains::NameRecord"
          (Decoders.direct.debugJsonText record.data)) ∧
      SubdomainExtV2.fromWriteResource .direct record "0xans" 5 =
        .error (parseTypeError 5 "0xans::v2_1_domains::NameRecord"
          (Decoders.direct.debugJsonText record.data)) := by
  intro lookup renewal record
  have h := ans_extractors_fail_on_either_type .direct "0xans" 5
  have hrecord : Decoders.direct.getOuterTypeFromWriteResource record =
      "0xans" ++ "::v2_1_domains::NameRecord" := by decide
  obtain ⟨hname, hsub⟩ := h.2.2.2 record (.inl ⟨hrecord, fun _ hd => by cases hd⟩)
  rw [hrecord] at hname hsub
  exact ⟨(h.1 lookup (.inl ⟨by decide, fun _ hd => by cases hd⟩)).1,
    (h.1 lookup (.inl ⟨by decide, fun _ hd => by cases hd⟩)).2,
    (h.2.1 _ renewal).2 ⟨by decide, rfl⟩, hname, hsub⟩

end CedraIndexer

import CedraIndexer.Proto

/-!
# Decoding by Move type

The decoders of `ans_utils.rs`, `coin_utils.rs`, `stake_utils.rs` and `token_utils.rs` share one
shape, `match data_type { t₁ => serde_json::from_str(data).map(..), .., _ => Ok(None) }`, with the
version, the type and the data as the context of its error. `decodeByType` is that match over the
list of known types, each with the variant a payload of that type decodes to: the first type equal to the
data type decides, as the first arm of a `match` does, and an unknown type decodes to nothing.

The resource enums' `from_resource` adds a second context, on the `Option`: a type its match does
not know is the error `Resource unsupported! Call is_resource_supported first.`, and so each caller
checks `is_resource_supported` first. `fromSupportedWriteResource` is the start shared by those
callers: the check, `MoveResource::from_write_resource`, and the unwrap of the resource's data.
-/

namespace CedraIndexer

/-- The context `anyhow` adds to a decoding error: the version, the type it failed to parse, and
the `Debug` text of the data. -/
def parseTypeError (txnVersion : Int) (typeStr dataDebug : String) : String :=
  "version " ++ toString txnVersion ++ " failed! failed to parse type " ++ typeStr ++ ", data " ++
    dataDebug

/-- `match type_str { t₁ => from_str(data).map(..), .., _ => Ok(None) }`: the first known type
equal to `typeStr` decodes the data as its variant; the data of a payload modelled decoded,
`asType` gives the variant exactly when the payload is a value of that type. -/
def decodeByType {α : Type} (typeStr : String) (data : MoveValue)
    (types : List (String × (MoveValue → Option α))) : Except Unit (Option α) :=
  match types.lookup typeStr with
  | none => .ok none
  | some asType =>
    match asType data with
    | some inner => .ok (some inner)
    | none => .error ()

/-- Past an arm of another type, the match goes on to the next arm. -/
@[simp] theorem lookup_cons_of_ne {β : Type} {typeStr type : String} {b : β}
    {rest : List (String × β)} (h : typeStr ≠ type) :
    ((type, b) :: rest).lookup typeStr = rest.lookup typeStr := by
  rw [List.lookup_cons, beq_eq_false_iff_ne.mpr h]

section DecodeByType

variable {α : Type} {typeStr : String} {data : MoveValue}
  {types : List (String × (MoveValue → Option α))}

theorem decodeByType_of_lookup_none (h : types.lookup typeStr = none) :
    decodeByType typeStr data types = .ok none := by
  simp only [decodeByType, h]

theorem decodeByType_of_lookup_some {asType : MoveValue → Option α}
    (h : types.lookup typeStr = some asType) :
    decodeByType typeStr data types = match asType data with
      | some inner => .ok (some inner)
      | none => .error () := by
  simp only [decodeByType, h]

/-- Data decodes to a variant exactly when the arm of its type gives that variant. -/
theorem decodeByType_eq_ok_some_iff {a : α} :
    decodeByType typeStr data types = .ok (some a) ↔
      ∃ asType, types.lookup typeStr = some asType ∧ asType data = some a := by
  rcases h : types.lookup typeStr with _ | asType
  · simp [decodeByType_of_lookup_none h]
  · rw [decodeByType_of_lookup_some h]
    split <;> simp_all

/-- Decoding fails exactly when the type is a known one and the data is not a value of it. -/
theorem decodeByType_eq_error_iff :
    decodeByType typeStr data types = .error () ↔
      ∃ asType, types.lookup typeStr = some asType ∧ asType data = none := by
  rcases h : types.lookup typeStr with _ | asType
  · simp [decodeByType_of_lookup_none h]
  · rw [decodeByType_of_lookup_some h]
    split <;> simp_all

/-- A type that decodes to a variant is a known one. -/
theorem mem_of_decodeByType_eq_ok_some {a : α}
    (h : decodeByType typeStr data types = .ok (some a)) :
    typeStr ∈ types.map Prod.fst := by
  obtain ⟨asType, hlookup, -⟩ := decodeByType_eq_ok_some_iff.mp h
  have hsome : (types.lookup typeStr).isSome := by simp [hlookup]
  obtain ⟨⟨t, b⟩, hmem, heq⟩ := List.lookup_isSome_iff.mp hsome
  exact List.mem_map.mpr ⟨(t, b), hmem, (beq_iff_eq.mp heq).symm⟩

end DecodeByType

/-- The context `from_resource` adds to the `Option` of its match. -/
def resourceUnsupportedError (txnVersion : Int) (typeStr : String) : String :=
  "Resource unsupported! Call is_resource_supported first. version " ++ toString txnVersion ++
    " type " ++ typeStr

/-- `from_resource` of the resource enums: the decoding with its context, which prints the data's
`serde_json::Value`, then `.context(..)` on the `Option`, which turns a type the match does not know
into the unsupported error. -/
def decodeResource {α : Type} (dec : Decoders) (typeStr : String) (data : MoveValue)
    (types : List (String × (MoveValue → Option α))) (txnVersion : Int) : Except String α :=
  match decodeByType typeStr data types with
  | .error () => .error (parseTypeError txnVersion typeStr (dec.debugJsonValue data))
  | .ok none => .error (resourceUnsupportedError txnVersion typeStr)
  | .ok (some a) => .ok a

/-- `from_resource` gives a value exactly when the decoding gives that variant. -/
@[simp] theorem decodeResource_eq_ok_iff {α : Type} {dec : Decoders} {typeStr : String}
    {data : MoveValue} {types : List (String × (MoveValue → Option α))} {txnVersion : Int} {a : α} :
    decodeResource dec typeStr data types txnVersion = .ok a ↔
      decodeByType typeStr data types = .ok (some a) := by
  unfold decodeResource
  rcases decodeByType typeStr data types with ⟨⟩ | _ | a' <;> simp

/-- The start of a resource enum's `from_write_resource`: a resource whose outer type
`isSupported` rejects is nothing; otherwise `MoveResource::from_write_resource`, whose error the
caller wraps in `wrapError`, and `resource.data.as_ref().unwrap()`; then `decodeData` on the outer
type, the resource and its data. -/
def fromSupportedWriteResource {β : Type} (dec : Decoders) (isSupported : String → Bool)
    (wrapError : String → String)
    (decodeData : String → MoveResource → MoveValue → Except Fault (Option β))
    (writeResource : WriteResource) : Except Fault (Option β) :=
  let typeStr := dec.getOuterTypeFromWriteResource writeResource
  if !isSupported typeStr then .ok none
  else
    match dec.moveResourceFromWriteResource writeResource with
    | .error e => .error (.error (wrapError e))
    | .ok none => .ok none
    | .ok (some resource) =>
      match resource.data with
      | none => Fault.unwrapOption none
      | some data => decodeData typeStr resource data

end CedraIndexer

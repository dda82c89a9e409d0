import CedraIndexer.TokenV2.TokenDatas

/-!
# Custom resources of v2 tokens

`v2_token_metadata.rs`. Any resource at a token object's address that is not one of the coin or
token framework's own is kept as token metadata, keyed by the object and the resource type. The
resource type is cut to `NAME_LENGTH` before it becomes part of that key.
-/

namespace CedraIndexer

/-- `CurrentTokenV2Metadata`. -/
structure CurrentTokenV2Metadata where
  objectAddress : String
  resourceType : String
  data : MoveValue
  stateKeyHash : String
  lastTransactionVersion : Int
  lastTransactionTimestamp : NaiveDateTime
  deriving DecidableEq, Repr

namespace CurrentTokenV2Metadata

/-- `CurrentTokenV2MetadataPK`: object, then resource type. -/
def pk (m : CurrentTokenV2Metadata) : String × String := (m.objectAddress, m.resourceType)

/-- `impl Ord for CurrentTokenV2Metadata`. -/
def cmp (a b : CurrentTokenV2Metadata) : Ordering :=
  (compare a.objectAddress b.objectAddress).then (compare a.resourceType b.resourceType)

/-- `CurrentTokenV2Metadata::from_write_resource`. -/
def fromWriteResource (sdk : Sdk) (dec : Decoders) (addrs : FrameworkAddresses)
    (writeResource : WriteResource) (txnVersion : Int)
    (objectMetadatas : ObjectAggregatedDataMapping) (txnTimestamp : NaiveDateTime) :
    Except Fault (Option CurrentTokenV2Metadata) :=
  let objectAddress := sdk.standardizeAddress writeResource.address
  match objectMetadatas.get? objectAddress with
  | some objectData =>
    if objectData.token.isSome then
      match writeResource.type with
      | none => Fault.unwrapOption none
      | some moveTag =>
        let resourceTypeAddr := dec.structTagAddress moveTag
        if resourceTypeAddr = addrs.coinAddr ∨ resourceTypeAddr = addrs.tokenAddr ∨
            resourceTypeAddr = addrs.tokenV2Addr then .ok none
        else
          match dec.moveResourceFromWriteResource writeResource with
          | .error e => .error (.error ("Error processing write resource: " ++ e))
          | .ok none => .ok none
          | .ok (some resource) =>
            if objectData.object.getStateKeyHash sdk ≠ resource.stateKeyHash then .ok none
            else
              match resource.data with
              | none => .error (.error "data must be present in write resource")
              | some data =>
                .ok (some ⟨objectAddress, truncateStr resource.resourceType NAME_LENGTH, data,
                  resource.stateKeyHash, txnVersion, txnTimestamp⟩)
    else .ok none
  | none => .ok none

/-- A row of `from_write_resource` is keyed by the standardized object address and the decoded
resource's type, cut to `NAME_LENGTH`. -/
theorem fromWriteResource_some {sdk : Sdk} {dec : Decoders} {addrs : FrameworkAddresses}
    {writeResource : WriteResource} {txnVersion : Int}
    {objectMetadatas : ObjectAggregatedDataMapping} {ts : NaiveDateTime}
    {m : CurrentTokenV2Metadata}
    (hr : fromWriteResource sdk dec addrs writeResource txnVersion objectMetadatas ts =
      .ok (some m)) :
    ∃ resource, dec.moveResourceFromWriteResource writeResource = .ok (some resource) ∧
      m.pk = (sdk.standardizeAddress writeResource.address,
        truncateStr resource.resourceType NAME_LENGTH) := by
  simp only [fromWriteResource] at hr
  rcases hobj : objectMetadatas.get? (sdk.standardizeAddress writeResource.address) with
    _ | objectData <;> simp only [hobj] at hr
  · cases hr
  rcases htype : writeResource.type with _ | moveTag <;>
    simp only [htype, Fault.unwrapOption] at hr <;> split_ifs at hr
  all_goals try cases hr
  rcases hres : dec.moveResourceFromWriteResource writeResource with _ | _ | resource <;>
    simp only [hres] at hr <;> try cases hr
  refine ⟨resource, rfl, ?_⟩
  rcases hdata : resource.data with _ | data <;> simp only [hdata] at hr <;> split_ifs at hr <;>
    cases hr
  rfl

end CurrentTokenV2Metadata

end CedraIndexer

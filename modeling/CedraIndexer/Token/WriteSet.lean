import CedraIndexer.Decode

/-!
# Token v1 table items and table owners

`TokenWriteSet::from_table_item_type` decodes a token table item's key or value by its Move type;
a type it does not know is not an error, a payload that does not decode is one. Table items do not
say whose table they are in: `TableHandleToOwner` maps a table handle, standardized, to the
account whose `Collections`, `TokenStore` or `PendingClaims` resource holds that table.
-/

namespace CedraIndexer

/-- `TokenWriteSet`. -/
inductive TokenWriteSet where
  | tokenDataId (v : TokenDataIdType)
  | tokenId (v : TokenIdType)
  | tokenData (v : TokenDataType)
  | token (v : TokenType)
  | collectionData (v : CollectionDataType)
  | tokenOfferId (v : TokenOfferIdType)
  deriving DecidableEq, Repr

/-- The `serde_json` decoding of a table item's key or value by its Move type: a known type whose
payload does not decode is an error, an unknown type decodes to nothing. -/
def TokenWriteSet.decode (dataType : String) (data : MoveValue) :
    Except Unit (Option TokenWriteSet) :=
  decodeByType dataType data
    [("0x3::token::TokenDataId", fun | .tokenDataId v => some (.tokenDataId v) | _ => none),
      ("0x3::token::TokenId", fun | .tokenId v => some (.tokenId v) | _ => none),
      ("0x3::token::TokenData", fun | .tokenData v => some (.tokenData v) | _ => none),
      ("0x3::token::Token", fun | .token v => some (.token v) | _ => none),
      ("0x3::token::CollectionData",
        fun | .collectionData v => some (.collectionData v) | _ => none),
      ("0x3::token_transfers::TokenOfferId",
        fun | .tokenOfferId v => some (.tokenOfferId v) | _ => none)]

/-- `TokenWriteSet::from_table_item_type`: the decoding, with the version, the type and the data's
text as context of its error. -/
def TokenWriteSet.fromTableItemType (dec : Decoders) (dataType : String) (data : MoveValue)
    (txnVersion : Int) : Except String (Option TokenWriteSet) :=
  (decode dataType data).mapError fun _ =>
    parseTypeError txnVersion dataType (dec.debugJsonText data)

/-- What a table item decodes to does not depend on the version, which only the error names. -/
@[simp] theorem TokenWriteSet.fromTableItemType_eq_ok (dec : Decoders) (dataType : String)
    (data : MoveValue) (txnVersion : Int) (r : Option TokenWriteSet) :
    fromTableItemType dec dataType data txnVersion = .ok r ↔ decode dataType data = .ok r := by
  unfold fromTableItemType
  cases decode dataType data <;> simp [Except.mapError]

/-- `TokenResource`: the three resources of an account that hold its token tables. -/
inductive TokenResource where
  | collectionResource (v : CollectionResourceType)
  | tokenStoreResource (v : TokenStoreResourceType)
  | pendingClaimsResource (v : PendingClaimsResourceType)
  deriving DecidableEq, Repr

namespace TokenResource

/-- `TokenResource::is_resource_supported`. -/
def isResourceSupported (addrs : FrameworkAddresses) (dataType : String) : Bool :=
  [addrs.tokenAddr ++ "::token::Collections", addrs.tokenAddr ++ "::token::TokenStore",
    addrs.tokenAddr ++ "::token_transfers::PendingClaims"].contains dataType

/-- The arms of `TokenResource::from_resource`: the three resources and their variants. -/
def resourceTypes (addrs : FrameworkAddresses) :
    List (String × (MoveValue → Option TokenResource)) :=
  [(addrs.tokenAddr ++ "::token::Collections",
      fun | .collectionResource v => some (.collectionResource v) | _ => none),
    (addrs.tokenAddr ++ "::token::TokenStore",
      fun | .tokenStoreResource v => some (.tokenStoreResource v) | _ => none),
    (addrs.tokenAddr ++ "::token_transfers::PendingClaims",
      fun | .pendingClaimsResource v => some (.pendingClaimsResource v) | _ => none)]

/-- `TokenResource::from_resource`. -/
def fromResource (dec : Decoders) (addrs : FrameworkAddresses) (dataType : String)
    (data : MoveValue) (txnVersion : Int) : Except String TokenResource :=
  decodeResource dec dataType data (resourceTypes addrs) txnVersion

/-- `is_resource_supported` accepts exactly the resources `from_resource` knows. -/
theorem isResourceSupported_iff {addrs : FrameworkAddresses} {dataType : String} :
    isResourceSupported addrs dataType = true ↔ dataType ∈ (resourceTypes addrs).map Prod.fst := by
  simp [isResourceSupported, resourceTypes]

/-- A resource `from_resource` reads is a supported one. -/
theorem isResourceSupported_of_fromResource {dec : Decoders} {addrs : FrameworkAddresses}
    {dataType : String} {data : MoveValue} {txnVersion : Int} {r : TokenResource}
    (h : fromResource dec addrs dataType data txnVersion = .ok r) :
    isResourceSupported addrs dataType = true :=
  isResourceSupported_iff.mpr
    (mem_of_decodeByType_eq_ok_some (decodeResource_eq_ok_iff.mp h))

/-- The handle of the table a token resource holds, standardized: the collection data table of
`Collections`, the tokens of `TokenStore`, the pending claims of `PendingClaims`. -/
def tableHandle (sdk : Sdk) : TokenResource → String
  | .collectionResource collection => collection.collectionData.getHandle sdk
  | .tokenStoreResource inner => inner.tokens.getHandle sdk
  | .pendingClaimsResource inner => inner.pendingClaims.getHandle sdk

end TokenResource

/-- `TableMetadataForToken`: the owner of a table and the resource type holding it. -/
structure TableMetadataForToken where
  ownerAddress : String
  tableType : String
  deriving DecidableEq, Repr

/-- `TableHandleToOwner`. -/
abbrev TableHandleToOwner := AHashMap String TableMetadataForToken

/-- `TableMetadataForToken::get_owner_address`. -/
def TableMetadataForToken.getOwnerAddress (sdk : Sdk) (t : TableMetadataForToken) : String :=
  sdk.standardizeAddress t.ownerAddress

end CedraIndexer

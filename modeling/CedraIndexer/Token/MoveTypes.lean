import CedraIndexer.Sdk

/-!
# The token v1 Move types

The deserialized Move structs of the `0x3` token contracts (`token_utils.rs`) and the accessors the
extractors read them through. Identifier hashes are `hash_str` of a `Display` string; collection
and token names are cut to `NAME_LENGTH` only where they are stored as names, never before
hashing, so every id below is taken over the whole name.
-/

namespace CedraIndexer

/-- `NAME_LENGTH`. -/
def NAME_LENGTH : Nat := 128

/-- `URI_LENGTH`. -/
def URI_LENGTH : Nat := 512

/-- `Table`: a Move table, by its handle. -/
structure Table where
  handle : String
  deriving DecidableEq, Repr

/-- `CollectionDataIdType`. -/
structure CollectionDataIdType where
  creator : String
  name : String
  deriving DecidableEq, Repr

/-- `TokenDataIdType`. -/
structure TokenDataIdType where
  creator : String
  collection : String
  name : String
  deriving DecidableEq, Repr

/-- `TokenIdType`. -/
structure TokenIdType where
  tokenDataId : TokenDataIdType
  propertyVersion : BigDecimal
  deriving DecidableEq, Repr

/-- `TokenDataMutabilityConfigType`. -/
structure TokenDataMutabilityConfigType where
  description : Bool
  maximum : Bool
  properties : Bool
  royalty : Bool
  uri : Bool
  deriving DecidableEq, Repr

/-- `RoyaltyType`. -/
structure RoyaltyType where
  payeeAddress : String
  royaltyPointsDenominator : BigDecimal
  royaltyPointsNumerator : BigDecimal
  deriving DecidableEq, Repr

/-- `TokenDataType`. -/
structure TokenDataType where
  defaultProperties : JsonValue
  description : String
  largestPropertyVersion : BigDecimal
  maximum : BigDecimal
  mutabilityConfig : TokenDataMutabilityConfigType
  name : String
  royalty : RoyaltyType
  supply : BigDecimal
  uri : String
  deriving DecidableEq, Repr

/-- `TokenType`. -/
structure TokenType where
  amount : BigDecimal
  id : TokenIdType
  tokenProperties : JsonValue
  deriving DecidableEq, Repr

/-- `CollectionDataMutabilityConfigType`. -/
structure CollectionDataMutabilityConfigType where
  description : Bool
  maximum : Bool
  uri : Bool
  deriving DecidableEq, Repr

/-- `CollectionDataType`. -/
structure CollectionDataType where
  description : String
  maximum : BigDecimal
  mutabilityConfig : CollectionDataMutabilityConfigType
  name : String
  supply : BigDecimal
  uri : String
  deriving DecidableEq, Repr

/-- `TokenOfferIdType`. -/
structure TokenOfferIdType where
  toAddr : String
  tokenId : TokenIdType
  deriving DecidableEq, Repr

/-- `CollectionResourceType`: an account's `0x3::token::Collections`. -/
structure CollectionResourceType where
  collectionData : Table
  tokenData : Table
  deriving DecidableEq, Repr

/-- `TokenStoreResourceType`: an account's `0x3::token::TokenStore`. -/
structure TokenStoreResourceType where
  tokens : Table
  deriving DecidableEq, Repr

/-- `PendingClaimsResourceType`: an account's `0x3::token_transfers::PendingClaims`. -/
structure PendingClaimsResourceType where
  pendingClaims : Table
  deriving DecidableEq, Repr

section Accessors

variable (sdk : Sdk)

/-- `Table::get_handle`. -/
def Table.getHandle (t : Table) : String := sdk.standardizeAddress t.handle

/-- `CollectionDataIdType::new`. -/
def CollectionDataIdType.new (creator name : String) : CollectionDataIdType := ⟨creator, name⟩

/-- `impl Display for CollectionDataIdType`. -/
def CollectionDataIdType.toString (c : CollectionDataIdType) : String :=
  sdk.standardizeAddress c.creator ++ "::" ++ c.name

/-- `CollectionDataIdType::to_hash`. -/
def CollectionDataIdType.toHash (c : CollectionDataIdType) : String :=
  sdk.hashStr (c.toString sdk)

/-- `CollectionDataIdType::to_id`. -/
def CollectionDataIdType.toId (c : CollectionDataIdType) : String := "0x" ++ c.toHash sdk

/-- `impl Display for TokenDataIdType`. -/
def TokenDataIdType.toString (t : TokenDataIdType) : String :=
  sdk.standardizeAddress t.creator ++ "::" ++ t.collection ++ "::" ++ t.name

/-- `TokenDataIdType::to_hash`. -/
def TokenDataIdType.toHash (t : TokenDataIdType) : String := sdk.hashStr (t.toString sdk)

/-- `TokenDataIdType::to_id`. -/
def TokenDataIdType.toId (t : TokenDataIdType) : String := "0x" ++ t.toHash sdk

/-- `TokenDataIdType::get_collection_trunc`. -/
def TokenDataIdType.getCollectionTrunc (t : TokenDataIdType) : String :=
  truncateStr t.collection NAME_LENGTH

/-- `TokenDataIdType::get_name_trunc`. -/
def TokenDataIdType.getNameTrunc (t : TokenDataIdType) : String := truncateStr t.name NAME_LENGTH

/-- `TokenDataIdType::get_collection_data_id_hash`. -/
def TokenDataIdType.getCollectionDataIdHash (t : TokenDataIdType) : String :=
  (CollectionDataIdType.new t.creator t.collection).toHash sdk

/-- `TokenDataIdType::get_collection_id`. -/
def TokenDataIdType.getCollectionId (t : TokenDataIdType) : String :=
  (CollectionDataIdType.new t.creator t.collection).toId sdk

/-- `TokenDataIdType::get_creator_address`. -/
def TokenDataIdType.getCreatorAddress (t : TokenDataIdType) : String :=
  sdk.standardizeAddress t.creator

/-- `TokenDataType::get_uri_trunc`. -/
def TokenDataType.getUriTrunc (t : TokenDataType) : String := truncateStr t.uri URI_LENGTH

/-- `RoyaltyType::get_payee_address`. -/
def RoyaltyType.getPayeeAddress (r : RoyaltyType) : String := sdk.standardizeAddress r.payeeAddress

/-- `CollectionDataType::get_name`. -/
def CollectionDataType.getName (c : CollectionDataType) : String := c.name

/-- `CollectionDataType::get_uri_trunc`. -/
def CollectionDataType.getUriTrunc (c : CollectionDataType) : String := truncateStr c.uri URI_LENGTH

/-- `CollectionDataType::get_name_trunc`. -/
def CollectionDataType.getNameTrunc (c : CollectionDataType) : String :=
  truncateStr c.name NAME_LENGTH

/-- `TokenOfferIdType::get_to_address`. -/
def TokenOfferIdType.getToAddress (o : TokenOfferIdType) : String := sdk.standardizeAddress o.toAddr

/-- A collection hash depends on its creator only through the standardized address. -/
theorem CollectionDataIdType.toHash_congr {c c' : CollectionDataIdType}
    (hcreator : sdk.standardizeAddress c.creator = sdk.standardizeAddress c'.creator)
    (hname : c.name = c'.name) : c.toHash sdk = c'.toHash sdk := by
  simp only [toHash, toString, hcreator, hname]

end Accessors

end CedraIndexer

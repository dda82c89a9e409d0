import CedraIndexer.Coin.Regex
import CedraIndexer.Decode

/-!
# Coin types and coin resources

`coin_utils.rs`. A coin's type is the generic argument `T` of the resource `CoinInfo<T>` or
`CoinStore<T>` it is read from. `CoinInfoType::from_move_type` cuts `T` out of the resource's type
string with the regular expression `(<(.*)>)`, and takes the creator from the struct tag of the
first generic parameter. The coin tables join on `to_hash`, the hash of the whole type, while the
stored `coin_type` is cut to `COIN_TYPE_HASH_LENGTH` characters.

`CoinResource::from_write_resource` decides by the outer type whether a resource is one of the two
coin resources, and decodes it. The `tracing` logs before each panic are not modelled; a panic
carries the logged text.
-/

namespace CedraIndexer

/-- `CoinInfoType`. -/
structure CoinInfoType where
  coinType : String
  creatorAddress : String
  deriving DecidableEq, Repr

namespace CoinInfoType

/-- `CoinInfoType::from_move_type`: `T` from the type string, the creator from the struct tag. -/
def fromMoveType (moveType : MoveType) (moveTypeStr : String) : Except Fault CoinInfoType :=
  match moveType.content with
  | none => Fault.unwrapOption none
  | some (.struct address _ _) =>
    match RE.captures moveTypeStr with
    | none => .error (.panic "move_type should look like 0x1::coin::CoinInfo<T>")
    | some matched =>
      match matched 2 with
      | none => Fault.unwrapOption none
      | some span => .ok ⟨spanText moveTypeStr span, address⟩
  | some .other => .error (.panic "Expected struct tag")

/-- `CoinInfoType::get_creator_address`. -/
def getCreatorAddress (sdk : Sdk) (c : CoinInfoType) : String :=
  sdk.standardizeAddress c.creatorAddress

/-- `CoinInfoType::to_hash`: the hash of the whole coin type. -/
def toHash (sdk : Sdk) (c : CoinInfoType) : String := sdk.hashStr c.coinType

/-- `CoinInfoType::get_coin_type_trunc`. -/
def getCoinTypeTrunc (c : CoinInfoType) : String := truncateStr c.coinType COIN_TYPE_HASH_LENGTH

/-- On `P<T>`, with no `<` in `P` and no line feed in `T`, the coin type is `T` exactly. -/
theorem fromMoveType_generic (address module name P T : String)
    (hP : '<' ∉ P.toList) (hT : '\n' ∉ T.toList) :
    fromMoveType ⟨some (.struct address module name)⟩ (P ++ "<" ++ T ++ ">") =
      .ok ⟨T, address⟩ := by
  obtain ⟨caps, hcaps, h2⟩ := RE_captures_generic P T hP hT
  simp only [fromMoveType, hcaps, h2, spanText_generic]

end CoinInfoType

/-- `CoinResource`; the two deletions belong to `from_delete_resource`, which nothing calls. -/
inductive CoinResource where
  | coinInfoResource (inner : CoinInfoResource)
  | coinStoreResource (inner : CoinStoreResource)
  deriving DecidableEq, Repr

/-- `COIN_RESOURCES`. -/
def COIN_RESOURCES (addrs : FrameworkAddresses) : List String :=
  [addrs.coinAddr ++ "::coin::CoinInfo", addrs.coinAddr ++ "::coin::CoinStore"]

namespace CoinResource

/-- `CoinResource::is_resource_supported`. -/
def isResourceSupported (addrs : FrameworkAddresses) (dataType : String) : Bool :=
  dataType ∈ COIN_RESOURCES addrs

/-- The arms of `CoinResource::from_resource`: the two coin resources and their variants. -/
def resourceTypes (addrs : FrameworkAddresses) :
    List (String × (MoveValue → Option CoinResource)) :=
  [(addrs.coinAddr ++ "::coin::CoinInfo",
      fun | .coinInfo inner => some (.coinInfoResource inner) | _ => none),
    (addrs.coinAddr ++ "::coin::CoinStore",
      fun | .coinStore inner => some (.coinStoreResource inner) | _ => none)]

/-- `CoinResource::from_resource`: the outer type picks the decoder. -/
def fromResource (dec : Decoders) (addrs : FrameworkAddresses) (dataType : String)
    (data : MoveValue) (txnVersion : Int) : Except String CoinResource :=
  decodeResource dec dataType data (resourceTypes addrs) txnVersion

/-- `CoinResource::from_write_resource`. -/
def fromWriteResource (dec : Decoders) (addrs : FrameworkAddresses) (writeResource : WriteResource)
    (txnVersion : Int) : Except Fault (Option CoinResource) :=
  fromSupportedWriteResource dec (isResourceSupported addrs)
    ("Error processing write resource: " ++ ·)
    (fun typeStr _ data =>
      ((fromResource dec addrs typeStr data txnVersion).map some).mapError .error)
    writeResource

end CoinResource

/-- `write_resource.r#type.as_ref().unwrap().generic_type_params[0]`. -/
def WriteResource.firstTypeParam (writeResource : WriteResource) : Except Fault MoveType :=
  match writeResource.type with
  | none => Fault.unwrapOption none
  | some tag =>
    match tag.genericTypeParams with
    | moveType :: _ => .ok moveType
    | [] => .error (.panic "index out of bounds: the len is 0 but the index is 0")

end CedraIndexer

import CedraIndexer.HashMap

/-!
# The coin Move types

The deserialized `0x1::coin` structs of `coin_utils.rs` that the coin extractors read. Names and
symbols are cut to 32 characters; the coin type itself is cut to `COIN_TYPE_HASH_LENGTH` when it
is stored, and hashed whole.
-/

namespace CedraIndexer

/-- `COIN_TYPE_HASH_LENGTH`. -/
def COIN_TYPE_HASH_LENGTH : Nat := 5000

/-- `COIN_TYPE_MAX`. -/
def COIN_TYPE_MAX : Nat := 1000

/-- `AggregatorResource`: where a coin's supply aggregator lives. -/
structure AggregatorResource where
  handle : String
  key : String
  deriving DecidableEq, Repr

/-- `OptionalAggregatorResource`, with its two Move options as lists. -/
structure OptionalAggregatorResource where
  aggregator : List AggregatorResource
  integer : List BigDecimal
  deriving DecidableEq, Repr

/-- `CoinInfoResource`. -/
structure CoinInfoResource where
  name : String
  symbol : String
  decimals : Int
  supply : List OptionalAggregatorResource
  deriving DecidableEq, Repr

/-- `EventGuidResource`. -/
structure EventGuidResource where
  addr : String
  creationNum : Int
  deriving DecidableEq, Repr

/-- `CoinStoreResource`, with each event handle by its guid. -/
structure CoinStoreResource where
  coinValue : BigDecimal
  depositEvents : EventGuidResource
  withdrawEvents : EventGuidResource
  frozen : Bool
  deriving DecidableEq, Repr

/-- `EventToCoinType`: event handle guid to the coin type it moves. -/
abbrev EventToCoinType := AHashMap EventGuidResource String

section Accessors

variable (sdk : Sdk)

/-- `CoinInfoResource::get_name_trunc`. -/
def CoinInfoResource.getNameTrunc (c : CoinInfoResource) : String := truncateStr c.name 32

/-- `CoinInfoResource::get_symbol_trunc`. -/
def CoinInfoResource.getSymbolTrunc (c : CoinInfoResource) : String := truncateStr c.symbol 32

/-- `CoinInfoResource::get_aggregator_metadata`: the first aggregator of the first supply. -/
def CoinInfoResource.getAggregatorMetadata (c : CoinInfoResource) : Option AggregatorResource :=
  c.supply.head?.bind fun inner => inner.aggregator.head?

/-- `EventGuidResource::get_standardized`. -/
def EventGuidResource.getStandardized (g : EventGuidResource) : EventGuidResource :=
  { g with addr := sdk.standardizeAddress g.addr }

end Accessors

end CedraIndexer

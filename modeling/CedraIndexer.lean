import CedraIndexer.Sdk
import CedraIndexer.HashMap
import CedraIndexer.Token.MoveTypes
import CedraIndexer.Coin.MoveTypes
import CedraIndexer.Stake.MoveTypes
import CedraIndexer.Ans.MoveTypes
import CedraIndexer.Proto
import CedraIndexer.Decode
import CedraIndexer.Ans.Decode
import CedraIndexer.Coin.Regex
import CedraIndexer.Coin.CoinUtils
import CedraIndexer.Coin.CoinBalances
import CedraIndexer.Coin.CoinSupply
import CedraIndexer.Db.Conn
import CedraIndexer.Db.Retry
import CedraIndexer.Db.Loop
import CedraIndexer.Stake.DelegatorBalances
import CedraIndexer.Stake.DelegatedVoter
import CedraIndexer.Stake.StakeUtils
import CedraIndexer.Token.WriteSet
import CedraIndexer.Token.CollectionDatas
import CedraIndexer.Token.TableOwners
import CedraIndexer.Token.Tokens
import CedraIndexer.Token.TokenClaims
import CedraIndexer.Token.TokenRoyalty
import CedraIndexer.TokenV2.TokenDatas
import CedraIndexer.TokenV2.TokenMetadata
import CedraIndexer.Reducers
import CedraIndexer.Resolver
import CedraIndexer.Deltas
import CedraIndexer.Orders
import CedraIndexer.Identifiers
import CedraIndexer.TransactionPB
import CedraIndexer.Default.Transactions
import CedraIndexer.Parquet.Events
import CedraIndexer.AccountTransactions
import CedraIndexer.Tables

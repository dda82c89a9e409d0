import CedraIndexer.Sdk

/-!
# ANS names

The Move types of the name service contracts that `ans_utils.rs` deserializes, and the name of the
token a name is minted as. A name is a domain with an optional subdomain. Its token is named
`subdomain.domain.apt`, or `domain.apt` for a domain alone, from the two parts cut to
`DOMAIN_LENGTH` characters.

The format has no escaping, so a token name determines its parts only when neither holds a `.`.
`parseTokenName` reads a token name back by splitting it at every `.`; it recovers the cut parts
of every name whose cut parts are dot-free, and so `get_token_name` is injective on those names.
With a dot in a part, `a.b` alone and `a` under `b` share the token name `a.b.apt`.
-/

namespace CedraIndexer

/-- `DOMAIN_LENGTH`. -/
def DOMAIN_LENGTH : Nat := 64

/-- `OptionalString`: a Move `Option<String>`, serialized as a vector of at most one string. -/
structure OptionalString where
  vec : List String
  deriving DecidableEq, Repr

/-- `OptionalString::get_string`: the first string, if there is one. -/
def OptionalString.getString (o : OptionalString) : Option String :=
  match o.vec with
  | [] => none
  | s :: _ => some s

/-- `OptionalBigDecimal`: a Move `Option<u64>` read as a vector of decimals. -/
structure OptionalBigDecimal where
  vec : List BigDecimal
  deriving DecidableEq, Repr

/-- `get_token_name`: the parts cut to `DOMAIN_LENGTH`, joined as `subdomain.domain.apt`, or as
`domain.apt` when the cut subdomain is empty. -/
def getTokenName (domainName subdomainName : String) : String :=
  let domain := truncateStr domainName DOMAIN_LENGTH
  let subdomain := truncateStr subdomainName DOMAIN_LENGTH
  let tokenName := domain ++ ".apt"
  if !subdomain.isEmpty then subdomain ++ "." ++ tokenName else tokenName

/-- A token name is its parts joined by `.`: the cut subdomain if it is not empty, the cut domain,
and `apt`. -/
theorem getTokenName_toList (domainName subdomainName : String) :
    (getTokenName domainName subdomainName).toList =
      ['.'].intercalate ((if (truncateStr subdomainName DOMAIN_LENGTH).isEmpty then []
        else [(truncateStr subdomainName DOMAIN_LENGTH).toList]) ++
        [(truncateStr domainName DOMAIN_LENGTH).toList, "apt".toList]) := by
  unfold getTokenName
  generalize truncateStr domainName DOMAIN_LENGTH = domain
  generalize truncateStr subdomainName DOMAIN_LENGTH = subdomain
  cases h : subdomain.isEmpty <;> simp [h, List.intercalate, String.toList]

/-- A token name read back: split at every `.`, it is `domain.apt` or `subdomain.domain.apt`. -/
def parseTokenName (tokenName : String) : Option (String × String) :=
  match tokenName.toList.splitOn '.' with
  | [domain, tld] => if tld = "apt".toList then some (⟨domain⟩, "") else none
  | [subdomain, domain, tld] =>
    if tld = "apt".toList then some (⟨domain⟩, ⟨subdomain⟩) else none
  | _ => none

/-- The token name of a name whose cut parts hold no `.` reads back as those parts. -/
theorem parseTokenName_getTokenName (domainName subdomainName : String)
    (hdomain : '.' ∉ (truncateStr domainName DOMAIN_LENGTH).toList)
    (hsubdomain : '.' ∉ (truncateStr subdomainName DOMAIN_LENGTH).toList) :
    parseTokenName (getTokenName domainName subdomainName) =
      some (truncateStr domainName DOMAIN_LENGTH, truncateStr subdomainName DOMAIN_LENGTH) := by
  have hapt : '.' ∉ "apt".toList := by decide
  rw [parseTokenName, getTokenName_toList, List.splitOn_intercalate]
  · cases h : (truncateStr subdomainName DOMAIN_LENGTH).isEmpty
    · simp
    · simp [(String.isEmpty_iff _).1 h]
  · split <;> simp_all
  · simp

example : getTokenName "a.b" "" = getTokenName "b" "a" := by decide

/-- Parts already cut read back as themselves. -/
theorem parseTokenName_getTokenName_of_cut {domain subdomain : String}
    (hcut : truncateStr domain DOMAIN_LENGTH = domain)
    (hcut' : truncateStr subdomain DOMAIN_LENGTH = subdomain)
    (hdomain : '.' ∉ domain.toList) (hsubdomain : '.' ∉ subdomain.toList) :
    parseTokenName (getTokenName domain subdomain) = some (domain, subdomain) := by
  have h := parseTokenName_getTokenName domain subdomain
  rw [hcut, hcut'] at h
  exact h hdomain hsubdomain

/-- `NameRecordKeyV1`: the key of a v1 name record. -/
structure NameRecordKeyV1 where
  domainName : String
  subdomainName : OptionalString
  deriving DecidableEq, Repr

namespace NameRecordKeyV1

/-- `NameRecordKeyV1::get_domain_trunc`. -/
def getDomainTrunc (k : NameRecordKeyV1) : String := truncateStr k.domainName DOMAIN_LENGTH

/-- `NameRecordKeyV1::get_subdomain_trunc`: a missing subdomain is the empty one. -/
def getSubdomainTrunc (k : NameRecordKeyV1) : String :=
  truncateStr (k.subdomainName.getString.getD "") DOMAIN_LENGTH

/-- `NameRecordKeyV1::get_token_name`, of the parts already cut. -/
def getTokenName (k : NameRecordKeyV1) : String :=
  CedraIndexer.getTokenName k.getDomainTrunc k.getSubdomainTrunc

/-- The token name of a key whose cut parts are dot-free reads back as those parts. -/
theorem parseTokenName_getTokenName (k : NameRecordKeyV1) (hdomain : '.' ∉ k.getDomainTrunc.toList)
    (hsubdomain : '.' ∉ k.getSubdomainTrunc.toList) :
    parseTokenName k.getTokenName = some (k.getDomainTrunc, k.getSubdomainTrunc) :=
  parseTokenName_getTokenName_of_cut (truncateStr_truncateStr _ _) (truncateStr_truncateStr _ _)
    hdomain hsubdomain

end NameRecordKeyV1

/-- `NameRecordV1`: a v1 name record. -/
structure NameRecordV1 where
  expirationTimeSec : BigDecimal
  propertyVersion : BigDecimal
  targetAddress : OptionalString
  deriving DecidableEq, Repr

/-- `NameRecordV1::get_target_address`. -/
def NameRecordV1.getTargetAddress (sdk : Sdk) (r : NameRecordV1) : Option String :=
  r.targetAddress.getString.map sdk.standardizeAddress

/-- `NameRecordV2`: a v2 name record resource. -/
structure NameRecordV2 where
  domainName : String
  expirationTimeSec : BigDecimal
  targetAddress : OptionalString
  deriving DecidableEq, Repr

/-- `NameRecordV2::get_domain_trunc`. -/
def NameRecordV2.getDomainTrunc (r : NameRecordV2) : String :=
  truncateStr r.domainName DOMAIN_LENGTH

/-- `NameRecordV2::get_target_address`. -/
def NameRecordV2.getTargetAddress (sdk : Sdk) (r : NameRecordV2) : Option String :=
  r.targetAddress.getString.map sdk.standardizeAddress

/-- `SubdomainExtV2`: the subdomain part of a v2 name record. -/
structure SubdomainExtV2 where
  subdomainExpirationPolicy : Int
  subdomainName : String
  deriving DecidableEq, Repr

/-- `SubdomainExtV2::get_subdomain_trunc`. -/
def SubdomainExtV2.getSubdomainTrunc (e : SubdomainExtV2) : String :=
  truncateStr e.subdomainName DOMAIN_LENGTH

/-- `RenewNameEvent`. -/
structure RenewNameEvent where
  domainName : String
  expirationTimeSecs : BigDecimal
  isPrimaryName : Bool
  subdomainName : OptionalString
  targetAddress : OptionalString
  deriving DecidableEq, Repr

/-- `SetReverseLookupEvent`: an account's primary name, before and after. -/
structure SetReverseLookupEvent where
  accountAddr : String
  currDomainName : OptionalString
  currExpirationTimeSecs : OptionalBigDecimal
  currSubdomainName : OptionalString
  prevDomainName : OptionalString
  prevExpirationTimeSecs : OptionalBigDecimal
  prevSubdomainName : OptionalString
  deriving DecidableEq, Repr

namespace SetReverseLookupEvent

/-- `SetReverseLookupEvent::get_account_addr`. -/
def getAccountAddr (sdk : Sdk) (e : SetReverseLookupEvent) : String :=
  sdk.standardizeAddress e.accountAddr

/-- `SetReverseLookupEvent::get_curr_domain_trunc`: a missing domain is the empty one. -/
def getCurrDomainTrunc (e : SetReverseLookupEvent) : String :=
  truncateStr (e.currDomainName.getString.getD "") DOMAIN_LENGTH

/-- `SetReverseLookupEvent::get_curr_subdomain_trunc`. -/
def getCurrSubdomainTrunc (e : SetReverseLookupEvent) : String :=
  truncateStr (e.currSubdomainName.getString.getD "") DOMAIN_LENGTH

/-- `SetReverseLookupEvent::get_curr_token_name`. -/
def getCurrTokenName (e : SetReverseLookupEvent) : String :=
  CedraIndexer.getTokenName e.getCurrDomainTrunc e.getCurrSubdomainTrunc

/-- The current token name of an event whose cut parts are dot-free reads back as those parts. -/
theorem parseTokenName_getCurrTokenName (e : SetReverseLookupEvent)
    (hdomain : '.' ∉ e.getCurrDomainTrunc.toList)
    (hsubdomain : '.' ∉ e.getCurrSubdomainTrunc.toList) :
    parseTokenName e.getCurrTokenName = some (e.getCurrDomainTrunc, e.getCurrSubdomainTrunc) :=
  parseTokenName_getTokenName_of_cut (truncateStr_truncateStr _ _) (truncateStr_truncateStr _ _)
    hdomain hsubdomain

end SetReverseLookupEvent

/-- The token names of v1 name records and of primary names read back: a key, or the current name
of a reverse lookup, whose cut parts are dot-free has a token name that splits into exactly those
parts; so two such keys share a token name exactly when their cut parts agree. -/
theorem token_names_read_back :
    (∀ k : NameRecordKeyV1, '.' ∉ k.getDomainTrunc.toList → '.' ∉ k.getSubdomainTrunc.toList →
      parseTokenName k.getTokenName = some (k.getDomainTrunc, k.getSubdomainTrunc)) ∧
    (∀ e : SetReverseLookupEvent, '.' ∉ e.getCurrDomainTrunc.toList →
      '.' ∉ e.getCurrSubdomainTrunc.toList →
      parseTokenName e.getCurrTokenName = some (e.getCurrDomainTrunc, e.getCurrSubdomainTrunc)) ∧
    (∀ k k' : NameRecordKeyV1, '.' ∉ k.getDomainTrunc.toList → '.' ∉ k.getSubdomainTrunc.toList →
      '.' ∉ k'.getDomainTrunc.toList → '.' ∉ k'.getSubdomainTrunc.toList →
      (k.getTokenName = k'.getTokenName ↔
        k.getDomainTrunc = k'.getDomainTrunc ∧ k.getSubdomainTrunc = k'.getSubdomainTrunc)) := by
  refine ⟨NameRecordKeyV1.parseTokenName_getTokenName,
    SetReverseLookupEvent.parseTokenName_getCurrTokenName, fun k k' hd hs hd' hs' => ?_⟩
  refine ⟨fun h => ?_, fun ⟨h₁, h₂⟩ => by simp only [NameRecordKeyV1.getTokenName, h₁, h₂]⟩
  have hparse := congrArg parseTokenName h
  rw [k.parseTokenName_getTokenName hd hs, k'.parseTokenName_getTokenName hd' hs'] at hparse
  simpa using hparse

/-- The name `cedra` under `pay` as a v1 key and as a primary name. -/
theorem token_names_read_back_for_a_subdomain :
    let k : NameRecordKeyV1 := ⟨"cedra", ⟨["pay"]⟩⟩
    let e : SetReverseLookupEvent :=
      ⟨"0xa", ⟨["cedra"]⟩, ⟨[7]⟩, ⟨["pay"]⟩, ⟨[]⟩, ⟨[]⟩, ⟨[]⟩⟩
    parseTokenName k.getTokenName = some ("cedra", "pay") ∧
      parseTokenName e.getCurrTokenName = some ("cedra", "pay") ∧
      k.getTokenName ≠ (⟨"cedra", ⟨[]⟩⟩ : NameRecordKeyV1).getTokenName := by
  intro k e
  have h := token_names_read_back
  refine ⟨h.1 k (by decide) (by decide), h.2.1 e (by decide) (by decide), fun heq => ?_⟩
  exact absurd ((h.2.2 k ⟨"cedra", ⟨[]⟩⟩ (by decide) (by decide) (by decide) (by decide)).1 heq).2
    (by decide)

end CedraIndexer

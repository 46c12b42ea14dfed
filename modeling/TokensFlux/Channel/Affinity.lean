import TokensFlux.Common.Str

/-! # The keys of the channel affinity cache -/

namespace TokensFlux

/-- The part of the key without the colons it ends in, if any is left. -/
def nsPrefix (ns : String) : String :=
  let ns := String.ofList ((trimSpace ns).toList.rdropWhile (· = ':'))
  if ns = "" then "" else ns ++ ":"

def fullKey (ns key : String) : String :=
  let key := trimSpace key
  let trimmed := String.ofList (key.toList.dropWhile (· = ':'))
  if key = "" then ""
  else if nsPrefix ns = "" then trimmed
  else if hasPrefix key (nsPrefix ns) then key
  else nsPrefix ns ++ trimmed

structure ChannelAffinityRule where
  name : String
  includeRuleName : Bool := true
  includeModelName : Bool := true
  includeUsingGroup : Bool := true

def buildChannelAffinityCacheKeySuffix (rule : ChannelAffinityRule)
    (modelName usingGroup affinityValue : String) :
    String :=
  ":".intercalate <| (if rule.includeRuleName ∧ rule.name ≠ "" then [rule.name] else [])
    ++ (if rule.includeModelName ∧ modelName ≠ "" then [modelName] else [])
    ++ (if rule.includeUsingGroup ∧ usingGroup ≠ "" then [usingGroup] else []) ++ [affinityValue]

def channelAffinityCacheNamespace : String := "new-api:channel_affinity:v1"

end TokensFlux

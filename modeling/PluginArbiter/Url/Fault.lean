/-
# What can be wrong with a URL
-/
namespace PluginArbiter.Url

/-- The reasons for which a text is no absolute URL. -/
inductive Fault
  | relative
  | emptyHost
  | badName
  | badHostCharacter
  | badPort
  | badV4
  | badV6
  deriving DecidableEq, Inhabited

/-- The wording of a reason. -/
def Fault.reason : Fault → String
  | relative => "relative URL without a base"
  | emptyHost => "empty host"
  | badName => "invalid international domain name"
  | badHostCharacter => "invalid domain character"
  | badPort => "invalid port number"
  | badV4 => "invalid IPv4 address"
  | badV6 => "invalid IPv6 address"

end PluginArbiter.Url

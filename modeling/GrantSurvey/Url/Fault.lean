/-!
# Why a text is no URL
-/

namespace GrantSurvey.Url

inductive Fault where
  | relative
  | emptyHost
  | invalidDomain
  | invalidCharacter
  | invalidFourBytes
  | invalidEightPieces
  | invalidPort
  deriving DecidableEq, Repr

def Fault.message : Fault → String
  | relative => "relative URL without a base"
  | emptyHost => "empty host"
  | invalidDomain => "invalid international domain name"
  | invalidCharacter => "invalid domain character"
  | invalidFourBytes => "invalid IPv4 address"
  | invalidEightPieces => "invalid IPv6 address"
  | invalidPort => "invalid port number"

end GrantSurvey.Url

import Xyena.Contracts.Guardian

/-!
# Authorization tokens

`AuthorizationSigner` of `packages/guardian/signing.py`. Signing and the
signature check with decoding are the two functions a configured key gives;
the registered claims are validated here as the token library documents it:
issuer and audience match, whole-second `iat` and `nbf` are not in the future
and whole-second `exp` is not in the past.
-/

namespace Xyena.Guardian

open Xyena.Contracts

structure TokenClaims where
  iss : String
  aud : String
  sub : Uuid
  jti : Uuid
  tenantId : Uuid
  callId : Uuid
  decisionId : Uuid
  requestHash : String
  constraints : Dict
  iat : Int
  nbf : Int
  exp : Int

/-- The two configured keys, each as the function it gives. -/
structure AuthorizationSigner where
  signingKey : Option (TokenClaims → String)
  verifyKey : Option (String → Option TokenClaims)

namespace AuthorizationSigner

def issuer : String := "xyena-guardian"

def audience : String := "xyena-mcp"

/-- Instants enter a token as whole seconds. -/
def timestamp (instant : Time) : Int := instant / 1000000

/-- What one `issue` call is asked to sign. -/
structure IssueRequest where
  authorizationId : Uuid
  tenantId : Uuid
  callId : Uuid
  decisionId : Uuid
  requestHash : String
  constraints : Dict
  lifetimeSeconds : Int := 120

def claims (now : Time) (tokenId : Uuid) (request : IssueRequest) : TokenClaims where
  iss := issuer
  aud := audience
  sub := request.authorizationId
  jti := tokenId
  tenantId := request.tenantId
  callId := request.callId
  decisionId := request.decisionId
  requestHash := request.requestHash
  constraints := request.constraints
  iat := timestamp now
  nbf := timestamp now
  exp := timestamp (now + seconds request.lifetimeSeconds)

/-- The token and its expiry. -/
def issue (signer : AuthorizationSigner) (now : Time) (tokenId : Uuid) (request : IssueRequest) :
    Except String (String × Time) :=
  match signer.signingKey with
  | none => .error "Guardian signing key is not configured."
  | some sign => .ok (sign (claims now tokenId request), now + seconds request.lifetimeSeconds)

/-- The claim checks of the token library at the instant `now`. -/
def claimsValid (now : Time) (claims : TokenClaims) : Bool :=
  claims.iss == issuer && claims.aud == audience && decide (seconds claims.iat ≤ now) &&
    decide (seconds claims.nbf ≤ now) && decide (now < seconds claims.exp)

def verify (signer : AuthorizationSigner) (now : Time) (token : String) :
    Except String TokenClaims :=
  match signer.verifyKey with
  | none => .error "Guardian verification key is not configured."
  | some decode =>
    match decode token with
    | none => .error "Guardian authorization is invalid."
    | some claims =>
      if claimsValid now claims then .ok claims else .error "Guardian authorization is invalid."

end AuthorizationSigner

end Xyena.Guardian

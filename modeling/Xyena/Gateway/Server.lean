import Xyena.Contracts.Tools
import Xyena.Foundation.PyText

/-!
# What the tool servers share

The servers that `RemoteMCPClient` talks to are separate programs. What each of
them takes from its process is the same: the token it shares with the client,
the two digests, and the text of a list or a dictionary.
-/

namespace Xyena.Gateway

open Xyena.Foundation Xyena.Contracts

structure ServerPlatform where
  mcpToken : String
  hmac : String → String → String
  sha256 : String → String
  containerText : Json → String

/-- The meta data of a request, which may carry none. -/
def metaOf (requestMeta : Option Dict) : Dict := requestMeta.getD []

/-- Whether a field is present and holds the given text. -/
def holdsText (fields : Dict) (key expected : String) : Bool :=
  match fields.lookup key with
  | some (.str value) => value == expected
  | _ => false

/-- Whether a field is present and is `True` itself. -/
def holdsTrue (fields : Dict) (key : String) : Bool :=
  match fields.lookup key with
  | some (.bool value) => value
  | _ => false

/-- Whether a field is present and counts as true. -/
def holdsTruthy (fields : Dict) (key : String) : Bool := (fields.lookup key).any Json.truthy

/-- The signature that a server expects on an envelope. -/
def ServerPlatform.signature (platform : ServerPlatform) (envelope : Dict) : String :=
  platform.hmac platform.mcpToken (Json.dumps true (.obj envelope))

/-- `str(envelope[key])` of a key that is present. -/
def ServerPlatform.textOf (platform : ServerPlatform) (envelope : Dict) (key : String) : String :=
  ((envelope.lookup key).map (Json.text platform.containerText)).getD ""

/-- The outcomes of `hmac.compare_digest`, which raises on a text that is not ASCII. The expected
digest is hexadecimal. -/
inductive Comparison where
  | same
  | different
  | unsupported
deriving DecidableEq, Repr

def compareDigest (supplied expected : String) : Comparison :=
  if supplied = expected then .same
  else if supplied.toList.all fun char ↦ decide (char.toNat < 0x80) then .different
  else .unsupported

def compareDigestError : String := "comparing strings with non-ASCII characters is not supported"

theorem compareDigest_same {supplied expected : String} :
    compareDigest supplied expected = .same ↔ supplied = expected := by
  unfold compareDigest
  split
  next h => simp [h]
  next h =>
    split <;> simp [h]

/-- What a server raises when the signature of a request cannot be confirmed. -/
structure SignatureErrors (ε : Type) where
  missing : ε
  algorithm : ε
  unsupported : ε
  invalid : ε

/-- The envelope of a request, whose signature has been confirmed. -/
def signedEnvelope {ε : Type} (platform : ServerPlatform) (errors : SignatureErrors ε)
    (requestMeta : Option Dict) : Except ε Dict :=
  let fields := metaOf requestMeta
  match fields.lookup "ai.xyena/runtime", fields.lookup "ai.xyena/signature" with
  | some (.obj envelope), some (.str supplied) =>
    if !holdsText fields "ai.xyena/signature-algorithm" "hmac-sha256" then .error errors.algorithm
    else
      match compareDigest supplied (platform.signature envelope) with
      | .unsupported => .error errors.unsupported
      | .different => .error errors.invalid
      | .same => .ok envelope
  | _, _ => .error errors.missing

theorem signedEnvelope_ok {ε : Type} {platform : ServerPlatform} {errors : SignatureErrors ε}
    {requestMeta : Option Dict} {envelope : Dict} :
    signedEnvelope platform errors requestMeta = .ok envelope ↔
      (metaOf requestMeta).lookup "ai.xyena/runtime" = some (.obj envelope) ∧
        (metaOf requestMeta).lookup "ai.xyena/signature" = some (.str (platform.signature envelope)) ∧
        holdsText (metaOf requestMeta) "ai.xyena/signature-algorithm" "hmac-sha256" = true := by
  unfold signedEnvelope
  simp only
  split
  next received supplied henvelope hsupplied =>
    rw [henvelope, hsupplied]
    constructor
    · intro h
      split at h
      · cases h
      next halgorithm =>
        cases hdigest : compareDigest supplied (platform.signature received) with
        | same =>
          simp only [hdigest] at h
          obtain rfl := Except.ok.inj h
          rw [compareDigest_same.mp hdigest]
          exact ⟨rfl, rfl, by simpa using halgorithm⟩
        | different =>
          simp only [hdigest] at h
          cases h
        | unsupported =>
          simp only [hdigest] at h
          cases h
    · rintro ⟨hreceived, hsignature, halgorithm⟩
      obtain rfl := Json.obj.inj (Option.some.inj hreceived)
      obtain rfl := Json.str.inj (Option.some.inj hsignature)
      simp [halgorithm, compareDigest_same.mpr]
  next hmissing =>
    simp only [reduceCtorEq, false_iff]
    rintro ⟨henvelope, hsignature, -⟩
    exact hmissing _ _ henvelope hsignature

end Xyena.Gateway

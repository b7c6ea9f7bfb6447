import SecretRotation.Material.Curve
import SecretRotation.Material.Ed25519
import SecretRotation.Material.Pem
import SecretRotation.Material.Rsa
import SecretRotation.Secret

/-!
# Key pairs

A private key of one of the three kinds, and both halves of the pair as texts. The public half is computed from the
private key, so the halves of a pair always belong together.

## Main definitions

* `PrivateKey`: the key, with `PrivateKey.privatePem` and `PrivateKey.publicPem`.
* `KeyRequest`, `KeySource`: what key is wanted, and where keys come from.
* `KeySource.standard`: keys computed from entropy.
-/

namespace SecretRotation

/-- A private key. -/
inductive PrivateKey where
  | rsa (key : RsaKey)
  | ec (key : EcKey)
  | ed25519 (key : Ed25519Key)
deriving DecidableEq

namespace PrivateKey

/-- The label and the encoding of the private half. -/
def privatePem : PrivateKey → Secret String
  | .rsa key => ⟨Pem.encode "RSA PRIVATE KEY" key.privateDer⟩
  | .ec key => ⟨Pem.encode "EC PRIVATE KEY" key.privateDer⟩
  | .ed25519 key => ⟨Pem.encode "PRIVATE KEY" key.privateDer⟩

/-- The label and the encoding of the public half. -/
def publicPem : PrivateKey → String
  | .rsa key => Pem.encode "RSA PUBLIC KEY" key.publicDer
  | .ec key => Pem.encode "PUBLIC KEY" key.publicDer
  | .ed25519 key => Pem.encode "PUBLIC KEY" key.publicDer

/-- The pair as logs show it, with its private half hidden. -/
def shown (k : PrivateKey) : Shown :=
  .record "Keypair" [.labelled "private_pem" k.privatePem.shown, .labelled "public_pem" (.text k.publicPem)]

end PrivateKey

/-- What key is wanted. -/
inductive KeyRequest where
  | rsa (bits : Nat)
  | ec (curve : NistCurve)
  | ed25519
deriving DecidableEq

/-- The algorithm of a request, for complaints. -/
def KeyRequest.algorithm : KeyRequest → String
  | .rsa _ => "RSA"
  | .ec _ => "ECDSA"
  | .ed25519 => "Ed25519"

/-- Where keys come from: a request and entropy lead to a key and to what is left of the entropy, unless the search for
a key is given up. -/
abbrev KeySource := KeyRequest → Entropy → Option (PrivateKey × Entropy)

/-- Keys computed from entropy. -/
def KeySource.standard : KeySource
  | .rsa bits, e => (RsaKey.generate? bits e).map fun (key, e) => (.rsa key, e)
  | .ec curve, e =>
    let (key, e) := EcKey.generate curve e
    some (.ec key, e)
  | .ed25519, e =>
    let (key, e) := Ed25519Key.generate e
    some (.ed25519 key, e)

end SecretRotation

import MeckChat.Qt.QString

/-!
The cryptographic calls (`crypto_provider.cpp`), over the primitives of the library
behind them.

* `Primitives` is what the program relies on of that library and of
  `QCryptographicHash`: X25519, a key derivation from passwords, HMAC-SHA-256 and
  SHA-256.
* The calls check sizes, and fail where the library does (`CryptoIo`).
-/

namespace MeckChat.Crypto

/-- The primitives. `agree` fails for the public keys that the library refuses. -/
structure Primitives where
  publicKey : Bytes → Bytes
  agree : Bytes → Bytes → Option Bytes
  kdf : Bytes → Bytes → Bytes
  hmac : Bytes → Bytes → Bytes
  sha256 : Bytes → Bytes
  length_publicKey : ∀ privateKey, (publicKey privateKey).length = 32
  agree_comm : ∀ a b, agree a (publicKey b) = agree b (publicKey a)
  length_kdf : ∀ password salt, (kdf password salt).length = 32
  length_hmac : ∀ key message, (hmac key message).length = 32
  sha256_ne_nil : ∀ message, sha256 message ≠ []

/-- `KeyPair`. -/
structure KeyPair where
  privateKey : Bytes := []
  publicKey : Bytes := []
  deriving DecidableEq, Repr

/-- What the library decides during one call: what it draws, and which of its
functions fail. -/
structure CryptoIo where
  privateKey : Bytes := []
  /-- What `generateSecureRandomBytes(16)` returns. -/
  salt : Bytes := []
  keygenOk : Bool := true
  kdfOk : Bool := true
  hmacOk : Bool := true
  /-- The second HMAC of a call. -/
  responseHmacOk : Bool := true
  agreeOk : Bool := true
  deriving DecidableEq, Repr

namespace CryptoProvider

variable (prim : Primitives) (io : CryptoIo)

/-- `CryptoProvider::generateX25519KeyPair`. -/
def generateX25519KeyPair : Option KeyPair :=
  if io.keygenOk ∧ io.privateKey.length = 32 then
    some ⟨io.privateKey, prim.publicKey io.privateKey⟩
  else none

/-- `CryptoProvider::deriveSharedSecret`. -/
def deriveSharedSecret (privateKey peerPublicKey : Bytes) : Option Bytes :=
  if privateKey.length ≠ 32 ∨ peerPublicKey.length ≠ 32 then none
  else if io.agreeOk then prim.agree privateKey peerPublicKey
  else none

/-- `CryptoProvider::deriveArgon2idKey`, with its default parameters. -/
def deriveArgon2idKey (password : String) (salt : Bytes) : Option Bytes :=
  if password = "" ∨ salt.length < 8 then none
  else if io.kdfOk then some (prim.kdf (QString.toUtf8 password) salt)
  else none

/-- `CryptoProvider::computeHmacSha256`. -/
def computeHmacSha256 (ok : Bool) (key message : Bytes) : Option Bytes :=
  if key = [] then none else if ok then some (prim.hmac key message) else none

/-- `CryptoProvider::verifyHmacConstantTime`. -/
def verifyHmacConstantTime (expected actual : Bytes) : Bool :=
  if expected.length ≠ 32 ∨ actual.length ≠ 32 then false else expected = actual

variable {prim io}

lemma generateX25519KeyPair_eq_some {keyPair : KeyPair} :
    generateX25519KeyPair prim io = some keyPair ↔
      io.keygenOk = true ∧ io.privateKey.length = 32 ∧
        ⟨io.privateKey, prim.publicKey io.privateKey⟩ = keyPair := by
  rw [generateX25519KeyPair]
  by_cases h : io.keygenOk = true ∧ io.privateKey.length = 32
  · rw [if_pos h, Option.some.injEq]
    exact ⟨fun hpair => ⟨h.1, h.2, hpair⟩, fun hpair => hpair.2.2⟩
  · rw [if_neg h]
    constructor
    · intro hpair
      cases hpair
    · rintro ⟨hok, hlength, -⟩
      exact absurd ⟨hok, hlength⟩ h

lemma deriveSharedSecret_eq_some {privateKey peerPublicKey secret : Bytes} :
    deriveSharedSecret prim io privateKey peerPublicKey = some secret ↔
      privateKey.length = 32 ∧ peerPublicKey.length = 32 ∧ io.agreeOk = true ∧
        prim.agree privateKey peerPublicKey = some secret := by
  rw [deriveSharedSecret]
  by_cases h : privateKey.length ≠ 32 ∨ peerPublicKey.length ≠ 32
  · rw [if_pos h]
    constructor
    · intro hsecret
      cases hsecret
    · rintro ⟨hprivate, hpublic, -⟩
      rcases h with h | h
      · exact absurd hprivate h
      · exact absurd hpublic h
  · rw [if_neg h]
    rw [not_or, not_not, not_not] at h
    cases io.agreeOk with
    | true => simp [h]
    | false => simp

lemma eq_of_verifyHmacConstantTime {expected actual : Bytes}
    (h : verifyHmacConstantTime expected actual = true) : expected = actual := by
  rw [verifyHmacConstantTime] at h
  split_ifs at h
  exact of_decide_eq_true h

lemma verifyHmacConstantTime_hmac (key message : Bytes) :
    verifyHmacConstantTime (prim.hmac key message) (prim.hmac key message) = true := by
  rw [verifyHmacConstantTime, if_neg (by simp [prim.length_hmac])]
  exact decide_eq_true rfl

lemma deriveArgon2idKey_eq_some {password : String} {salt key : Bytes} :
    deriveArgon2idKey prim io password salt = some key ↔
      password ≠ "" ∧ 8 ≤ salt.length ∧ io.kdfOk = true ∧
        prim.kdf (QString.toUtf8 password) salt = key := by
  rw [deriveArgon2idKey]
  by_cases hparams : password = "" ∨ salt.length < 8
  · rw [if_pos hparams]
    constructor
    · intro h
      cases h
    · rintro ⟨hpassword, hsalt, -, -⟩
      rcases hparams with hparams | hparams
      · exact absurd hparams hpassword
      · omega
  · rw [if_neg hparams]
    rw [not_or, not_lt] at hparams
    cases io.kdfOk with
    | true => simp [hparams]
    | false => simp

lemma kdf_ne_nil (password salt : Bytes) : prim.kdf password salt ≠ [] := by
  intro h
  have hlength := prim.length_kdf password salt
  rw [h] at hlength
  cases hlength

lemma computeHmacSha256_kdf (ok : Bool) (password salt message : Bytes) :
    computeHmacSha256 prim ok (prim.kdf password salt) message =
      if ok then some (prim.hmac (prim.kdf password salt) message) else none :=
  if_neg (kdf_ne_nil password salt)

end CryptoProvider

end MeckChat.Crypto

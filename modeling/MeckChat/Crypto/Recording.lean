import MeckChat.Crypto.CryptoProvider

/-!
Primitives from recorded values.

A `Recording` holds what the real primitives return on some inputs.
`Recording.primitives` answers with these values, and with zeros or a refusal
elsewhere, so that the laws of `Primitives` hold of it.
-/

namespace MeckChat.Crypto

/-- The 32 bytes of a number. -/
def block (n : ℕ) : Bytes := BigEndian.encode 32 n

@[simp] lemma length_block (n : ℕ) : (block n).length = 32 := BigEndian.length_encode 32 n

section Tables

variable {α : Type} [DecidableEq α] {table : List (α × Bytes)} {a : α}

/-- The value beside an entry of a table. -/
def lookupIn (table : List (α × Bytes)) (a : α) : Option Bytes :=
  (table.find? fun entry => entry.1 = a).map Prod.snd

lemma mem_of_lookupIn {b : Bytes} (h : lookupIn table a = some b) : (a, b) ∈ table := by
  obtain ⟨entry, hfind, rfl⟩ := Option.map_eq_some_iff.mp h
  have hkey := List.find?_some hfind
  obtain rfl : entry.1 = a := of_decide_eq_true hkey
  exact List.mem_of_find?_eq_some hfind

/-- What a table holds, zeros elsewhere. -/
def valueIn (table : List (α × Bytes)) (a : α) : Bytes := (lookupIn table a).getD (block 0)

lemma length_valueIn (h : ∀ entry ∈ table, entry.2.length = 32) :
    (valueIn table a).length = 32 := by
  rw [valueIn]
  cases hlookup : lookupIn table a with
  | none => exact length_block 0
  | some b => exact h _ (mem_of_lookupIn hlookup)

end Tables

/-- The private key to a public key. -/
def ownerIn (keys : List (Bytes × Bytes)) (publicKey : Bytes) : Option Bytes :=
  (keys.find? fun pair => pair.2 = publicKey).map Prod.fst

/-- Recorded values: key pairs, the secrets of two private keys, derived keys, HMACs
and hashes. -/
structure Recording where
  keys : List (Bytes × Bytes)
  secrets : List ((Bytes × Bytes) × Bytes)
  kdf : List ((Bytes × Bytes) × Bytes)
  hmac : List ((Bytes × Bytes) × Bytes)
  sha256 : List (Bytes × Bytes)
  length_keys : ∀ pair ∈ keys, pair.2.length = 32
  length_kdf : ∀ entry ∈ kdf, entry.2.length = 32
  length_hmac : ∀ entry ∈ hmac, entry.2.length = 32
  length_sha256 : ∀ entry ∈ sha256, entry.2.length = 32
  /-- No public key is recorded twice. -/
  owner : ∀ pair ∈ keys, ownerIn keys pair.2 = some pair.1
  owner_zero : ownerIn keys (block 0) = none
  /-- No secret is recorded in both orders. -/
  once : ∀ entry ∈ secrets, lookupIn secrets (entry.1.2, entry.1.1) = none

namespace Recording

variable (r : Recording)

/-- The private key, if it is recorded. -/
def known (privateKey : Bytes) : Option Bytes :=
  (lookupIn r.keys privateKey).map fun _ => privateKey

/-- The secret of two private keys, in either order. -/
def secret (a b : Bytes) : Option Bytes :=
  (lookupIn r.secrets (a, b)).or (lookupIn r.secrets (b, a))

/-- The secret of a private and a public key. -/
def agree (privateKey publicKey : Bytes) : Option Bytes :=
  (r.known privateKey).bind fun a => (ownerIn r.keys publicKey).bind fun b => r.secret a b

lemma ownerIn_valueIn (b : Bytes) : ownerIn r.keys (valueIn r.keys b) = r.known b := by
  rw [valueIn, known]
  cases h : lookupIn r.keys b with
  | none =>
      rw [Option.getD_none, r.owner_zero]
      rfl
  | some publicKey => exact r.owner _ (mem_of_lookupIn h)

lemma secret_comm (a b : Bytes) : r.secret a b = r.secret b a := by
  rw [secret, secret]
  cases h : lookupIn r.secrets (a, b) with
  | none => rw [Option.none_or, Option.or_none]
  | some s =>
      have hswap : lookupIn r.secrets (b, a) = none := r.once _ (mem_of_lookupIn h)
      rw [hswap, Option.none_or, Option.some_or]

lemma agree_comm (a b : Bytes) :
    r.agree a (valueIn r.keys b) = r.agree b (valueIn r.keys a) := by
  rw [agree, agree, ownerIn_valueIn, ownerIn_valueIn]
  cases r.known a with
  | none =>
      cases r.known b with
      | none => rfl
      | some b' => rfl
  | some a' =>
      cases r.known b with
      | none => rfl
      | some b' => exact r.secret_comm a' b'

/-- The primitives of a recording. -/
def primitives : Primitives where
  publicKey := valueIn r.keys
  agree := r.agree
  kdf password salt := valueIn r.kdf (password, salt)
  hmac key message := valueIn r.hmac (key, message)
  sha256 := valueIn r.sha256
  length_publicKey _ := length_valueIn r.length_keys
  agree_comm := r.agree_comm
  length_kdf _ _ := length_valueIn r.length_kdf
  length_hmac _ _ := length_valueIn r.length_hmac
  sha256_ne_nil _ h := by
    have hlength := congrArg List.length h
    rw [length_valueIn r.length_sha256] at hlength
    cases hlength

end Recording

end MeckChat.Crypto

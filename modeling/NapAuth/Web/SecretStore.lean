import NapAuth.Client
import NapAuth.Interleaving.Sequential
import Mathlib.Data.List.DropRight

/-!
# Secrets under a passphrase

`createWebCryptoSecretStore` of `packages/nap-client-web/src/webCryptoSecretStore.ts`: one item of the
storage, with the ciphertext of a secret and with what its key is derived from besides the
passphrase. A record is read with the iteration count that is in it, and so by stores of every
setting, and one that this build cannot read is refused before any key is derived.

The key derivation and the cipher are parameters, as are the parser and the serializer of JSON and the
text decoder. What they are assumed to do is `SecretLaws`.
-/

namespace NapAuth.Web

open Interleaving

/-- `ENVELOPE_VERSION`. -/
def envelopeVersion : ℤ := 1

/-- `PBKDF2_ITERATIONS`. -/
def pbkdf2Iterations : ℤ := 310000

/-- `PBKDF2_HASH`. -/
def pbkdf2Hash : String := "SHA-256"

/-- `SALT_BYTES`. -/
def saltBytes : ℕ := 16

/-- `IV_BYTES`. -/
def ivBytes : ℕ := 12

/-- `MIN_ITERATIONS`. -/
def minIterations : ℤ := 1000

/-- `MAX_ITERATIONS`. -/
def maxIterations : ℤ := 10000000

/-- What the store uses from its platform. -/
structure SecretPlatform where
  /-- `CryptoKey`, of AES-GCM. -/
  Key : Type
  /-- `crypto.subtle.deriveKey`, for PBKDF2: of a passphrase, a salt and an iteration count. -/
  deriveKey : List UInt8 → List UInt8 → ℤ → Key
  /-- `crypto.subtle.encrypt`: under an initialization vector and a key. -/
  encrypt : List UInt8 → Key → List UInt8 → List UInt8
  /-- `crypto.subtle.decrypt`, unless it rejects. -/
  decrypt : List UInt8 → Key → List UInt8 → Option (List UInt8)
  /-- `JSON.parse`, unless it throws. -/
  jsonParse : String → Option Json
  /-- `JSON.stringify`. -/
  jsonStringify : Json → String
  /-- `new TextDecoder().decode`. -/
  textDecode : List UInt8 → String

/-! ## Stores -/

/-- `usableIterations`, as the integer. -/
def usableIterations (iterations : JsNumber) : Option ℤ :=
  iterations.integer?.filter fun n => decide (minIterations ≤ n) && decide (n ≤ maxIterations)

/-- `WebCryptoSecretStoreOptions`. -/
structure WebCryptoSecretStoreOptions where
  /-- `resolveStorage(options.storage)`: which storage it is, if there is one. -/
  storage : Option ℕ
  iterations : Option JsNumber

/-- A `SecretStore`, with the iteration count that it writes. -/
structure SecretStore where
  storageKey : String
  storage : Option ℕ
  iterations : ℤ
  /-- It reads what it writes. -/
  usable : usableIterations (.ofInt iterations) = some iterations

/-- What is usable is usable as an integer. -/
theorem usableIterations_ofInt {iterations : JsNumber} {n : ℤ}
    (h : usableIterations iterations = some n) : usableIterations (.ofInt n) = some n := by
  obtain ⟨-, hband⟩ := Option.filter_eq_some_iff.mp h
  exact Option.filter_eq_some_iff.mpr ⟨rfl, hband⟩

/-- `createWebCryptoSecretStore`. -/
def createWebCryptoSecretStore (storageKey : String) (options : WebCryptoSecretStoreOptions) :
    Except String SecretStore :=
  match h : usableIterations (options.iterations.getD (.ofInt pbkdf2Iterations)) with
  | some iterations => .ok ⟨storageKey, options.storage, iterations, usableIterations_ofInt h⟩
  | none => .error ("iterations must be an integer between " ++ toString minIterations ++ " and " ++
      toString maxIterations)

/-! ## Operations -/

section

variable (P : SecretPlatform)

/-- What a call asks of its platform. -/
inductive SecretOp where
  | getItem (storage : ℕ) (key : String)
  | setItem (storage : ℕ) (key value : String)
  | removeItem (storage : ℕ) (key : String)
  | getRandomValues (length : ℕ)
  | deriveKey (passphrase salt : List UInt8) (iterations : ℤ)
  | encrypt (iv : List UInt8) (key : P.Key) (data : List UInt8)
  | decrypt (iv : List UInt8) (key : P.Key) (data : List UInt8)

/-- The answers. An error is an exception, or a rejection. -/
@[reducible] def SecretRes : SecretOp P → Type
  | .getItem _ _ => Except String (Option String)
  | .setItem _ _ _ => Except String Unit
  | .removeItem _ _ => Except String Unit
  | .getRandomValues _ => List UInt8
  | .deriveKey _ _ _ => Except String P.Key
  | .encrypt _ _ _ => Except String (List UInt8)
  | .decrypt _ _ _ => Except String (List UInt8)

/-- A program of the store. -/
abbrev SecretProgram (α : Type) : Type := Prog (SecretRes P) α

/-- Issue one operation. -/
abbrev request (op : SecretOp P) : SecretProgram P (SecretRes P op) := Prog.op op

/-! ## Records -/

/-- `Envelope`. -/
def envelope (iterations : ℤ) (salt iv ciphertext : List UInt8) : Json :=
  .obj [("version", .num (JsonNumber.ofInt envelopeVersion)),
    ("kdf", .obj [("name", .str "PBKDF2"), ("hash", .str pbkdf2Hash),
      ("iterations", .num (JsonNumber.ofInt iterations)),
      ("salt", .str (Codec.encodeBase64Bytes salt))]),
    ("iv", .str (Codec.encodeBase64Bytes iv)),
    ("ciphertext", .str (Codec.encodeBase64Bytes ciphertext))]

/-- `envelope.version`, if it is a number. -/
def versionOf (record : Json) : Option JsonNumber := (record.get? "version").bind Json.num?

/-- `envelope.kdf?.iterations`, if it is a number. -/
def iterationsOf (record : Json) : Option JsonNumber :=
  ((record.get? "kdf").bind fun kdf => kdf.get? "iterations").bind Json.num?

/-- `decodeBase64Bytes(value)`, of what should be a string. -/
def decodeField (value : Option Json) : Except String (List UInt8) :=
  match value.bind Json.str? with
  | some text => Codec.decodeBase64Bytes text
  | none => .error "value.replace is not a function"

variable {P}

/-- What `readStoredEnvelope` makes of the item. -/
def SecretPlatform.parseStored (P : SecretPlatform) (raw : Option String) : Json :=
  match raw with
  | none => .null
  | some text => if text = "" then .null else (P.jsonParse text).getD .null

/-- Whether a value is `null`. -/
def isNull : Json → Bool
  | .null => true
  | _ => false

/-- What `readUsableEnvelope` makes of it: the record, with its iteration count. A value that is not an
object has no version. -/
def usableRecord (record : Json) : Option (Json × ℤ) :=
  if versionOf record = some (JsonNumber.ofInt envelopeVersion) then
    ((iterationsOf record).bind fun n => usableIterations n.val).map fun n => (record, n)
  else none

/-! ## The functions of a store -/

namespace SecretStore

variable (P) (store : SecretStore)

/-- `requireStorage`. -/
def requireStorage : Except String ℕ :=
  match store.storage with
  | some storage => .ok storage
  | none => .error "No storage available: pass options.storage outside a browser"

/-- `readStoredEnvelope`. -/
def readStored : SecretProgram P (Except String Json) :=
  match store.requireStorage with
  | .error error => return .error error
  | .ok storage => do
    match ← request P (.getItem storage store.storageKey) with
    | .error error => return .error error
    | .ok raw => return .ok (P.parseStored raw)

/-- `readUsableEnvelope`. -/
def readUsable : SecretProgram P (Except String (Option (Json × ℤ))) := do
  match ← store.readStored P with
  | .error error => return .error error
  | .ok record => return .ok (usableRecord record)

/-- `save`. -/
def save (plaintext passphrase : String) : SecretProgram P (Except String Unit) := do
  let salt ← request P (.getRandomValues saltBytes)
  let iv ← request P (.getRandomValues ivBytes)
  match ← request P (.deriveKey (utf8Bytes passphrase) salt store.iterations) with
  | .error error => return .error error
  | .ok key =>
    match ← request P (.encrypt iv key (utf8Bytes plaintext)) with
    | .error error => return .error error
    | .ok ciphertext =>
      let record := envelope store.iterations salt iv ciphertext
      match store.requireStorage with
      | .error error => return .error error
      | .ok storage => request P (.setItem storage store.storageKey (P.jsonStringify record))

/-- The `try` of `load`: what it throws is a record that cannot be read. -/
def decryptRecord (record : Json) (iterations : ℤ) (passphrase : String) :
    SecretProgram P (Except String (Option String)) := do
  match decodeField ((record.get? "kdf").bind fun kdf => kdf.get? "salt") with
  | .error _ => return .ok none
  | .ok salt =>
    match ← request P (.deriveKey (utf8Bytes passphrase) salt iterations) with
    | .error _ => return .ok none
    | .ok key =>
      match decodeField (record.get? "iv"), decodeField (record.get? "ciphertext") with
      | .ok iv, .ok ciphertext =>
        match ← request P (.decrypt iv key ciphertext) with
        | .error _ => return .ok none
        | .ok plaintext => return .ok (some (P.textDecode plaintext))
      | _, _ => return .ok none

/-- `load`. -/
def load (passphrase : String) : SecretProgram P (Except String (Option String)) := do
  match ← store.readUsable P with
  | .error error => return .error error
  | .ok none => return .ok none
  | .ok (some (record, iterations)) => decryptRecord P record iterations passphrase

/-- `clear`. -/
def clear : SecretProgram P (Except String Unit) :=
  match store.requireStorage with
  | .error error => return .error error
  | .ok storage => request P (.removeItem storage store.storageKey)

/-- `has`. -/
def has : SecretProgram P (Except String Bool) := do
  match ← store.readStored P with
  | .error error => return .error error
  | .ok record => return .ok (!isNull record)

end SecretStore

/-! ## A platform that works -/

/-- The storages, by their numbers and keys. -/
abbrev Storages : Type := ℕ → String → Option String

/-- `setItem` and `removeItem`. -/
def Storages.write (s : Storages) (storage : ℕ) (key : String) (value : Option String) : Storages :=
  fun n k => if n = storage ∧ k = key then value else s n k

@[simp] theorem Storages.write_same (s : Storages) (storage : ℕ) (key : String)
    (value : Option String) : s.write storage key value storage key = value := if_pos ⟨rfl, rfl⟩

variable (P) in
/-- An operation, where the storages take what is written. The environment has the random bytes, by
how many are asked for. -/
def secretExec (op : SecretOp P) (random : ℕ → List UInt8) (s : Storages) :
    SecretRes P op × Storages :=
  match op with
  | .getItem storage key => (.ok (s storage key), s)
  | .setItem storage key value => (.ok (), s.write storage key (some value))
  | .removeItem storage key => (.ok (), s.write storage key none)
  | .getRandomValues length => (random length, s)
  | .deriveKey passphrase salt iterations => (.ok (P.deriveKey passphrase salt iterations), s)
  | .encrypt iv key data => (.ok (P.encrypt iv key data), s)
  | .decrypt iv key data =>
    (match P.decrypt iv key data with
      | some plaintext => .ok plaintext
      | none => .error "OperationError", s)

/-- What the platform is assumed to do. -/
structure SecretLaws (P : SecretPlatform) : Prop where
  /-- Under the same vector and key, what was encrypted is decrypted. -/
  decrypt_encrypt : ∀ iv key data, P.decrypt iv key (P.encrypt iv key data) = some data
  /-- Under another key it is not. -/
  decrypt_other : ∀ iv key key' data, key' ≠ key → P.decrypt iv key' (P.encrypt iv key data) = none
  /-- A text is decoded as it was encoded. -/
  decode_encode : ∀ s, P.textDecode (utf8Bytes s) = s
  /-- No value has the empty text. -/
  parse_empty : P.jsonParse "" = none

/-! ## What a store reads -/

/-- A number that is an integer is that integer. -/
theorem integer?_eq_some {x : JsNumber} {n : ℤ} (h : x.integer? = some n) : x = .ofInt n := by
  unfold JsNumber.integer? at h
  split at h
  · rename_i q
    split_ifs at h with hden
    obtain rfl := Option.some.inj h
    exact congrArg JsNumber.fin (Rat.coe_int_num_of_den_eq_one hden).symm
  · cases h

/-- Usable iterations are an integer in the band. -/
theorem usableIterations_eq_some {x : JsNumber} {n : ℤ} : usableIterations x = some n ↔
    x = .ofInt n ∧ minIterations ≤ n ∧ n ≤ maxIterations := by
  unfold usableIterations
  rw [Option.filter_eq_some_iff, Bool.and_eq_true, decide_eq_true_eq, decide_eq_true_eq]
  refine and_congr_left fun _ => ⟨integer?_eq_some, fun h => ?_⟩
  rw [h]
  rfl

/-- A record has another version, or iterations that are not an integer in the band. -/
def Unreadable (record : Json) : Prop :=
  versionOf record ≠ some (JsonNumber.ofInt envelopeVersion) ∨
    ∀ n : ℤ, iterationsOf record = some (JsonNumber.ofInt n) →
      ¬ (minIterations ≤ n ∧ n ≤ maxIterations)

/-- Such a record is not used. -/
theorem usableRecord_of_unreadable {record : Json} (h : Unreadable record) :
    usableRecord record = none := by
  unfold usableRecord
  split
  · rename_i hversion
    have hband := h.resolve_left (not_not_intro hversion)
    rw [Option.map_eq_none_iff, Option.bind_eq_none_iff]
    intro x hx
    cases husable : usableIterations x.val with
    | none => rfl
    | some n =>
      obtain ⟨hval, hle⟩ := usableIterations_eq_some.mp husable
      obtain rfl : x = JsonNumber.ofInt n := Subtype.ext hval
      exact absurd hle (hband n hx)
  · rfl

/-- A record that was written is used, with the iterations that it was written with. -/
theorem usableRecord_envelope {iterations : ℤ}
    (h : usableIterations (.ofInt iterations) = some iterations) (salt iv ciphertext : List UInt8) :
    usableRecord (envelope iterations salt iv ciphertext) =
      some (envelope iterations salt iv ciphertext, iterations) := by
  have hiterations : iterationsOf (envelope iterations salt iv ciphertext) =
      some (JsonNumber.ofInt iterations) := rfl
  have hversion : versionOf (envelope iterations salt iv ciphertext) =
      some (JsonNumber.ofInt envelopeVersion) := rfl
  unfold usableRecord
  rw [if_pos hversion, hiterations, Option.bind_some]
  show (usableIterations (.ofInt iterations)).map _ = _
  rw [h]
  rfl

/-- What a text is parsed to. -/
theorem parseStored_of_parse {P : SecretPlatform} (hempty : P.jsonParse "" = none) {text : String}
    {record : Json} (h : P.jsonParse text = some record) : P.parseStored (some text) = record := by
  have hne : text ≠ "" := by
    rintro rfl
    rw [hempty] at h
    cases h
  show (if text = "" then Json.null else (P.jsonParse text).getD .null) = record
  rw [if_neg hne, h]
  rfl

/-! ## What its functions come to -/

variable {store : SecretStore} {storage : ℕ} {random : ℕ → ℕ → List UInt8} {s : Storages}

/-- `readStoredEnvelope` comes to what is in the item. -/
theorem eval_readStored (hstorage : store.storage = some storage) (n : ℕ) :
    (store.readStored P).eval (secretExec P) random n s =
      ⟨.ok (P.parseStored (s storage store.storageKey)),
        [⟨.getItem storage store.storageKey, .ok (s storage store.storageKey)⟩], s⟩ := by
  have hrequire : store.requireStorage = .ok storage := by
    unfold SecretStore.requireStorage
    rw [hstorage]
  unfold SecretStore.readStored
  rw [hrequire]
  rfl

/-- `has` is whether that is not `null`. -/
theorem eval_has (hstorage : store.storage = some storage) (n : ℕ) :
    (store.has P).eval (secretExec P) random n s =
      ⟨.ok (!isNull (P.parseStored (s storage store.storageKey))),
        [⟨.getItem storage store.storageKey, .ok (s storage store.storageKey)⟩], s⟩ := by
  unfold SecretStore.has
  rw [Prog.eval_bind, eval_readStored hstorage]
  rfl

/-- `readUsableEnvelope`. -/
theorem eval_readUsable (hstorage : store.storage = some storage) (n : ℕ) :
    (store.readUsable P).eval (secretExec P) random n s =
      ⟨.ok (usableRecord (P.parseStored (s storage store.storageKey))),
        [⟨.getItem storage store.storageKey, .ok (s storage store.storageKey)⟩], s⟩ := by
  unfold SecretStore.readUsable
  rw [Prog.eval_bind, eval_readStored hstorage]
  rfl

/-- A record that is not used is not loaded: nothing else is asked of the platform. -/
theorem eval_load_none (hstorage : store.storage = some storage) (n : ℕ) (passphrase : String)
    (h : usableRecord (P.parseStored (s storage store.storageKey)) = none) :
    (store.load P passphrase).eval (secretExec P) random n s =
      ⟨.ok none, [⟨.getItem storage store.storageKey, .ok (s storage store.storageKey)⟩], s⟩ := by
  unfold SecretStore.load
  rw [Prog.eval_bind, eval_readUsable hstorage, h]
  rfl

/-- A record that was written is loaded with the key of a passphrase, and of its own salt and
iterations. -/
theorem eval_load (hstorage : store.storage = some storage) (n : ℕ) (passphrase : String)
    {iterations : ℤ} (husable : usableIterations (.ofInt iterations) = some iterations)
    {salt iv ciphertext : List UInt8}
    (h : P.parseStored (s storage store.storageKey) = envelope iterations salt iv ciphertext) :
    ((store.load P passphrase).eval (secretExec P) random n s).value =
      .ok ((P.decrypt iv (P.deriveKey (utf8Bytes passphrase) salt iterations) ciphertext).map
        P.textDecode) := by
  unfold SecretStore.load
  rw [Prog.eval_bind, eval_readUsable hstorage, h, usableRecord_envelope husable]
  have hsalt : decodeField (((envelope iterations salt iv ciphertext).get? "kdf").bind fun kdf =>
      kdf.get? "salt") = .ok salt := Codec.decodeBase64Bytes_encode salt
  have hiv : decodeField ((envelope iterations salt iv ciphertext).get? "iv") = .ok iv :=
    Codec.decodeBase64Bytes_encode iv
  have hciphertext : decodeField ((envelope iterations salt iv ciphertext).get? "ciphertext") =
      .ok ciphertext := Codec.decodeBase64Bytes_encode ciphertext
  dsimp only
  unfold SecretStore.decryptRecord
  rw [hsalt]
  simp only [Prog.eval_op_bind, secretExec, hiv, hciphertext]
  cases P.decrypt iv (P.deriveKey (utf8Bytes passphrase) salt iterations) ciphertext with
  | none => rfl
  | some plaintext => rfl

/-- The record that a store writes. -/
def SecretStore.record (P : SecretPlatform) (store : SecretStore) (plaintext passphrase : String)
    (salt iv : List UInt8) : Json :=
  let key := P.deriveKey (utf8Bytes passphrase) salt store.iterations
  envelope store.iterations salt iv (P.encrypt iv key (utf8Bytes plaintext))

/-- `save` writes it. -/
theorem eval_save (hstorage : store.storage = some storage) (plaintext passphrase : String) :
    let saved := (store.save P plaintext passphrase).eval (secretExec P) random 0 s
    saved.value = .ok () ∧ saved.state = s.write storage store.storageKey (some (P.jsonStringify
      (store.record P plaintext passphrase (random 0 saltBytes) (random 1 ivBytes)))) := by
  have hrequire : store.requireStorage = .ok storage := by
    unfold SecretStore.requireStorage
    rw [hstorage]
  unfold SecretStore.save
  simp only [Prog.eval_op_bind, secretExec, hrequire]
  exact ⟨rfl, rfl⟩

/-- A value is parsed as it was written. -/
def SecretPlatform.ReadsBack (P : SecretPlatform) (value : Json) : Prop :=
  P.jsonParse (P.jsonStringify value) = some value

/-- What a store loads that another one has saved, with any passphrase. -/
theorem eval_load_saved (hempty : P.jsonParse "" = none) {writer reader : SecretStore}
    (hwriting : writer.storage = some storage) (hreading : reader.storage = some storage)
    (hkey : reader.storageKey = writer.storageKey) {plaintext passphrase : String}
    (hreads : P.ReadsBack (writer.record P plaintext passphrase (random 0 saltBytes)
      (random 1 ivBytes))) (other : String) :
    ((reader.load P other).eval (secretExec P) random 0
      ((writer.save P plaintext passphrase).eval (secretExec P) random 0 s).state).value =
      .ok ((P.decrypt (random 1 ivBytes)
        (P.deriveKey (utf8Bytes other) (random 0 saltBytes) writer.iterations)
        (P.encrypt (random 1 ivBytes)
          (P.deriveKey (utf8Bytes passphrase) (random 0 saltBytes) writer.iterations)
          (utf8Bytes plaintext))).map P.textDecode) := by
  obtain ⟨-, hsaved⟩ := @eval_save P writer storage random s hwriting plaintext passphrase
  refine eval_load hreading 0 other writer.usable ?_
  rw [hsaved, hkey, Storages.write_same]
  exact parseStored_of_parse hempty hreads

/-! ## The round trip -/

/-- What two stores of one item keep to, one of which has saved a secret, when the item has a content
besides: the other one loads the secret with its passphrase and not with another, nothing is loaded from
a record that this build cannot read, and no key is derived from it, and every record is there. -/
structure KeepsSecret (P : SecretPlatform) (writer reader : SecretStore) (storage : ℕ)
    (plaintext passphrase other : String) (random : ℕ → ℕ → List UInt8) (s t : Storages) : Prop where
  saves : ((writer.save P plaintext passphrase).eval (secretExec P) random 0 s).value = .ok ()
  loads : ((reader.load P passphrase).eval (secretExec P) random 0
    ((writer.save P plaintext passphrase).eval (secretExec P) random 0 s).state).value =
      .ok (some plaintext)
  refuses : other ≠ passphrase → ((reader.load P other).eval (secretExec P) random 0
    ((writer.save P plaintext passphrase).eval (secretExec P) random 0 s).state).value = .ok none
  unreadable : ∀ raw record, t storage reader.storageKey = some raw → P.jsonParse raw = some record →
    Unreadable record → ∀ passphrase, (reader.load P passphrase).eval (secretExec P) random 0 t =
      ⟨.ok none, [⟨.getItem storage reader.storageKey, .ok (some raw)⟩], t⟩
  present : ∀ raw record, t storage reader.storageKey = some raw → P.jsonParse raw = some record →
    ((reader.has P).eval (secretExec P) random 0 t).value = .ok true

/-- Another passphrase has another key, with a salt and an iteration count. The key derivation need not
see to it: PBKDF2 takes a short passphrase with zero bytes after it for the passphrase. -/
def SecretPlatform.TellsApart (P : SecretPlatform) (passphrase other : String) (salt : List UInt8)
    (iterations : ℤ) : Prop :=
  other ≠ passphrase →
    P.deriveKey (utf8Bytes other) salt iterations ≠ P.deriveKey (utf8Bytes passphrase) salt iterations

/-- What a store that was created is. -/
theorem createWebCryptoSecretStore_eq_ok {storageKey : String} {options : WebCryptoSecretStoreOptions}
    (h : createWebCryptoSecretStore storageKey options = .ok store) :
    store.storageKey = storageKey ∧ store.storage = options.storage := by
  unfold createWebCryptoSecretStore at h
  split at h
  · obtain rfl := Except.ok.inj h
    exact ⟨rfl, rfl⟩
  · cases h

/-- Two stores of one item, with any accepted iterations each, keep a secret, exactly when the item is
not the text of `null`, which is read as if there were no record, and the other passphrase has another
key. -/
theorem keepsSecret_iff (laws : SecretLaws P) {storageKey : String} {storage : ℕ}
    {writing reading : Option JsNumber} {writer reader : SecretStore}
    (hwriter : createWebCryptoSecretStore storageKey ⟨some storage, writing⟩ = .ok writer)
    (hreader : createWebCryptoSecretStore storageKey ⟨some storage, reading⟩ = .ok reader)
    (plaintext passphrase other : String) (random : ℕ → ℕ → List UInt8) (s t : Storages)
    (hreads : P.ReadsBack (writer.record P plaintext passphrase (random 0 saltBytes)
      (random 1 ivBytes))) :
    KeepsSecret P writer reader storage plaintext passphrase other random s t ↔
      (∀ raw, t storage storageKey = some raw → P.jsonParse raw ≠ some .null) ∧
      P.TellsApart passphrase other (random 0 saltBytes) writer.iterations := by
  obtain ⟨rfl, hwriting⟩ := createWebCryptoSecretStore_eq_ok hwriter
  obtain ⟨hkey, hreading⟩ := createWebCryptoSecretStore_eq_ok hreader
  obtain ⟨hsaves, -⟩ := @eval_save P writer storage random s hwriting plaintext passphrase
  have hload := @eval_load_saved P storage random s laws.parse_empty writer reader hwriting hreading
    hkey plaintext passphrase hreads
  -- With the key that it was saved under, the secret is loaded.
  have hopens : ∀ other, P.deriveKey (utf8Bytes other) (random 0 saltBytes) writer.iterations =
      P.deriveKey (utf8Bytes passphrase) (random 0 saltBytes) writer.iterations →
      ((reader.load P other).eval (secretExec P) random 0
        ((writer.save P plaintext passphrase).eval (secretExec P) random 0 s).state).value =
        .ok (some plaintext) := fun other hsame => by
    rw [hload, hsame, laws.decrypt_encrypt, Option.map_some, laws.decode_encode]
  constructor
  · intro hkeeps
    refine ⟨fun raw hraw hnull => ?_, fun hother hsame => ?_⟩
    · -- The record that parses to `null` is told from an absent one by `present` alone.
      have hpresent := hkeeps.present raw .null (hkey ▸ hraw) hnull
      rw [eval_has hreading, hkey, hraw, parseStored_of_parse laws.parse_empty hnull] at hpresent
      cases hpresent
    · have hrefused := hkeeps.refuses hother
      rw [hopens other hsame] at hrefused
      cases hrefused
  · rintro ⟨hnull, happart⟩
    refine ⟨hsaves, hopens passphrase rfl, fun hother => ?_,
      fun raw record hraw hrecord hunreadable passphrase => ?_, fun raw record hraw hrecord => ?_⟩
    · rw [hload, laws.decrypt_other _ _ _ _ (happart hother), Option.map_none]
    · have hstored := parseStored_of_parse laws.parse_empty hrecord
      have hnone : usableRecord (P.parseStored (t storage reader.storageKey)) = none := by
        rw [hraw, hstored]
        exact usableRecord_of_unreadable hunreadable
      rw [eval_load_none hreading 0 passphrase hnone, hraw]
    · rw [eval_has hreading, hraw, parseStored_of_parse laws.parse_empty hrecord]
      cases record with
      | null => exact absurd hrecord (hnull raw (hkey ▸ hraw))
      | _ => rfl

end

/-! ## A platform whose ciphertexts name their keys -/

namespace SecretSample

/-- A ciphertext: the key, byte by byte, and the plaintext. -/
def wrap : List UInt8 → List UInt8 → List UInt8
  | [], data => 0 :: data
  | b :: key, data => 1 :: b :: wrap key data

/-- The plaintext, if the key is that of the ciphertext. -/
def unwrap : List UInt8 → List UInt8 → Option (List UInt8)
  | [], 0 :: data => some data
  | b :: key, 1 :: c :: rest => if b = c then unwrap key rest else none
  | _, _ => none

theorem unwrap_wrap (key data : List UInt8) : unwrap key (wrap key data) = some data := by
  induction key with
  | nil => rfl
  | cons b key ih =>
    show (if b = b then unwrap key (wrap key data) else none) = some data
    rw [if_pos rfl, ih]

theorem unwrap_other : ∀ {key key' data : List UInt8}, key' ≠ key →
    unwrap key' (wrap key data) = none
  | [], [], _, h => absurd rfl h
  | [], _ :: _, _, _ => rfl
  | _ :: _, [], _, _ => rfl
  | b :: key, b' :: key', data, h => by
    show (if b' = b then unwrap key' (wrap key data) else none) = none
    split
    · rename_i heq
      exact unwrap_other fun hkeys => h (by rw [heq, hkeys])
    · rfl

/-- The record of a secret. -/
def record : Json :=
  envelope 1000 (List.replicate 16 0) (List.replicate 12 0) (wrap (utf8Bytes "p") (utf8Bytes "k"))

/-- Its text. -/
def recordText : String :=
  "\x7b\"version\":1,\"kdf\":\x7b\"name\":\"PBKDF2\",\"hash\":\"SHA-256\",\"iterations\":1000," ++
    "\"salt\":\"AAAAAAAAAAAAAAAAAAAAAA==\"\x7d,\"iv\":\"AAAAAAAAAAAAAAAA\"," ++
      "\"ciphertext\":\"AXAAaw==\"\x7d"

/-- The text of a record of a later version. -/
def newerText : String := "\x7b\"version\":2\x7d"

/-- The platform. A key is what is left of a passphrase without the zero bytes at its end. -/
def platform : SecretPlatform where
  Key := List UInt8
  deriveKey passphrase _ _ := passphrase.rdropWhile (· == 0)
  encrypt _ := wrap
  decrypt _ := unwrap
  jsonParse text :=
    if text = recordText then some record
    else if text = newerText then some (.obj [("version", .num (JsonNumber.ofInt 2))])
    else if text = "null" then some .null
    else none
  jsonStringify _ := recordText
  textDecode := Sample.platform.textDecode

theorem laws : SecretLaws platform where
  decrypt_encrypt _ := unwrap_wrap
  decrypt_other _ _ _ _ := unwrap_other
  decode_encode := Sample.textDecode_utf8Bytes
  parse_empty := rfl

/-- The store that writes. -/
def writer : SecretStore := ⟨"nap-key", some 0, 1000, by decide⟩

/-- The store that reads, with the default iterations. -/
def reader : SecretStore := ⟨"nap-key", some 0, pbkdf2Iterations, by decide⟩

/-- The random bytes. -/
def random (_ length : ℕ) : List UInt8 := List.replicate length 0

/-- The item with a text. -/
def item (text : String) : Storages := fun _ _ => some text

/-- What the store writes is read back. -/
theorem readsBack : platform.ReadsBack (writer.record platform "k" "p" (random 0 saltBytes)
    (random 1 ivBytes)) := by
  have hrecord : writer.record platform "k" "p" (random 0 saltBytes) (random 1 ivBytes) = record := rfl
  have hparse : ∀ text, text = recordText → platform.jsonParse text = some record :=
    fun text h => if_pos h
  rw [hrecord]
  exact hparse _ rfl

end SecretSample

section Witnesses

open SecretSample

/-- A record of a later version is kept beside the round trip. -/
theorem keepsSecret_newer : KeepsSecret platform writer reader 0 "k" "p" "q" random (fun _ _ => none)
    (item newerText) := by
  have hwriter : createWebCryptoSecretStore "nap-key" ⟨some 0, some (.ofInt 1000)⟩ = .ok writer := rfl
  have hreader : createWebCryptoSecretStore "nap-key" ⟨some 0, none⟩ = .ok reader := rfl
  have happart : platform.TellsApart "p" "q" (random 0 saltBytes) writer.iterations :=
    fun _ hsame => absurd (show ([113] : List UInt8) = [112] from hsame) (by decide)
  refine (keepsSecret_iff laws hwriter hreader "k" "p" "q" random _ _ readsBack).mpr
    ⟨fun raw hraw hnull => ?_, happart⟩
  obtain rfl := Option.some.inj hraw
  have hnewer : platform.jsonParse newerText = some (.obj [("version", .num (JsonNumber.ofInt 2))]) :=
    rfl
  rw [hnewer] at hnull
  cases hnull

/-- The text of `null` parses, and there is no record. And a passphrase with a zero byte after it loads
the secret. -/
theorem keepsSecret_null :
    ¬ KeepsSecret platform writer reader 0 "k" "p" "q" random (fun _ _ => none) (item "null") ∧
    ¬ KeepsSecret platform writer reader 0 "k" "p" "p\x00" random (fun _ _ => none) (item newerText) := by
  refine ⟨fun h => ?_, fun h => ?_⟩
  · have hpresent := h.present "null" .null rfl rfl
    cases hpresent
  · have hrefused := h.refuses (by decide)
    have hloaded := @eval_load_saved platform 0 random (fun _ _ => none) laws.parse_empty writer reader
      rfl rfl rfl "k" "p" readsBack "p\x00"
    rw [hloaded] at hrefused
    cases hrefused

end Witnesses

end NapAuth.Web

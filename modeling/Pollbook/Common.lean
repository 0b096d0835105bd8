import Pollbook.Lib.Map
import Pollbook.Messages

/-!
# What the programs share

The check-in service, the ID service and the client use the same libraries, and
the two services keep their clients' keys the same way.
-/

namespace Pollbook

/-- `asio::ip::tcp::endpoint`, for IPv4. -/
structure Endpoint where
  address : UInt32
  port : UInt16
  deriving DecidableEq, Repr

/-! ## Keys and signatures -/

/-- The public key an `EnvelopeKey` wraps, by its encoding. -/
structure EnvelopeKey where
  der : Bytes
  deriving DecidableEq, Repr

/-- What `from_pem_public` finds in a file that is there: a public key in PEM,
or something else, which is an `openssl_error`; or `fopen` fails, with `EACCES`
or `EPERM`, or with another error. -/
inductive PemFile where
  | publicKey (key : EnvelopeKey)
  | invalid
  | unopenable (permissionDenied : Bool)
  deriving DecidableEq, Repr

/-- The file can be opened. -/
def PemFile.opens : PemFile → Bool
  | unopenable _ => false
  | _ => true

/-- The `permission_denied` or `file_error` of a file that cannot be opened,
less the file's name in their texts. -/
def PemFile.openError (permissionDenied : Bool) : Trap :=
  .runtimeError (if permissionDenied then "Error opening file: permission denied." else "")

/-- The client keys in memory and on disk. A `Verifier` is the key it was
made with. -/
structure Keys where
  clientVerifiers : Map UInt32 EnvelopeKey
  clientPublicKeys : Map UInt32 EnvelopeKey
  pemFiles : Map Bytes PemFile

/-- The libraries the programs call. `Verifier::finalize` throws when OpenSSL
reports neither a match nor a mismatch. -/
structure Libraries extends Codec where
  /-- `Verifier::init`, `add_bytes` and `finalize`: key, message, signature. -/
  verify : EnvelopeKey → Bytes → Bytes → Cpp Bool
  /-- `Signer::init`, `add_bytes` and `finalize`: key pair, message. -/
  sign : EnvelopeKey → Bytes → Bytes

/-- What is relied on for a key: a signature made with it verifies under it. -/
def Libraries.Verifies (lib : Libraries) (key : EnvelopeKey) : Prop :=
  ∀ message, lib.verify key message (lib.sign key message) = .ok true

/-- `/` -/
def slash : UInt8 := 47

/-- The operating system's reading of a path: a run of slashes is one. -/
def normalize : Bytes → Bytes
  | [] => []
  | [b] => [b]
  | b :: c :: path =>
    if b = slash ∧ c = slash then normalize (c :: path) else b :: normalize (c :: path)

/-- `map.at(key)` -/
def mapAt {κ ν : Type} (m : Map κ ν) (key : κ) : Cpp ν :=
  match m key with
  | some v => .ok v
  | none => .error (.outOfRange "map::at")

theorem mapAt_eq_ok {κ ν : Type} {m : Map κ ν} {key : κ} {v : ν} :
    mapAt m key = .ok v ↔ m key = some v := by
  unfold mapAt
  split
  · next w hw => rw [hw, Except.ok.injEq, Option.some.injEq]
  · next hnone => simp [hnone]

/-! ## Freshness -/

/-- The difference of two timestamps, taken unsigned and then converted to
`int64_t`. -/
def timeDifference (currentTimestamp timestamp : UInt64) : Int64 :=
  if currentTimestamp > timestamp then (currentTimestamp - timestamp).toInt64
  else (timestamp - currentTimestamp).toInt64

/-- `std::abs(time_difference) > request_freshness_interval` -/
def stale (interval : UInt32) (currentTimestamp timestamp : UInt64) : Bool :=
  (timeDifference currentTimestamp timestamp).abs > interval.toUInt64.toInt64

end Pollbook

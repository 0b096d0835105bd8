import Pollbook.Client.Handlers
import Pollbook.Lib.Base64
import Pollbook.Lib.PyJson

/-!
# The client in Python

What `client.py` sends, signs and checks. Texts are made with `json.dumps`, and
each place passes its own options. Sockets, the latency file and what becomes
of the ticket are left out, and so is the length in front of an answer, which is
read and not used.
-/

namespace Pollbook

namespace PyClient

open PyJson
open PollbookClient (littleEndian)

/-- The configuration, with the key pair by its public half, and the public key
files of the services. -/
structure Cfg where
  clientId : UInt32
  privateKey : EnvelopeKey
  idPubkeyFile : EnvelopeKey
  checkinPubkeyFile : EnvelopeKey

/-- A row of `voters.csv`. -/
structure Voter where
  id : UInt32
  firstName : String
  middleName : String
  lastName : String

/-- `base64.b64encode(data).decode("ascii")` -/
def b64encode (data : Bytes) : String :=
  String.ofList ((Base64.encode data).map fun b => Char.ofNat b.toNat)

/-- `base64.b64decode(text)`; the text has to be ASCII. -/
def b64decode (text : String) : Option Bytes :=
  if (bytes text).all (·.toNat < 128) then Base64.a2b 0 0 0 (bytes text) else none

/-! ## The ID service -/

/-- What the client puts behind the voter's number. -/
def dummyBytes : Bytes :=
  [0x1a, 0x1b, 0x1c, 0x1d, 0x2a, 0x2b, 0x2c, 0x2d, 0xff, 0xff, 0xff, 0xff, 0x1, 0x1, 0x1, 0x1,
    0x1a, 0x1b, 0x1c, 0x1d, 0x2a, 0x2b, 0x2c, 0x2d]

/-- The body of the request. -/
def idRequestBody (cfg : Cfg) (timestamp : UInt64) (v : Voter) : Value :=
  .dict [
    ("client_id_num", .int cfg.clientId.toNat),
    ("timestamp", .int timestamp.toNat),
    ("last_name", .str v.lastName),
    ("middle_name", .str v.middleName),
    ("first_name", .str v.firstName),
    ("voter_id_data", .str (b64encode (littleEndian v.id ++ dummyBytes)))]

/-- What it signs: `sort_keys=True` and `ensure_ascii=False`. -/
def idRequestSigned (cfg : Cfg) (timestamp : UInt64) (v : Voter) : Bytes :=
  dumps false true (idRequestBody cfg timestamp v)

/-- `build_voter_id_request` -/
def buildVoterIdRequest (lib : Libraries) (cfg : Cfg) (timestamp : UInt64) (v : Voter) : Value :=
  .dict [
    ("body", idRequestBody cfg timestamp v),
    ("client_signature", .str (b64encode (lib.sign cfg.privateKey
      (idRequestSigned cfg timestamp v))))]

/-- The line of `send_request` with the message. -/
def sendRequest (request : Value) : Bytes := dumps false false request ++ [newline]

/-- `bytes.strip()` -/
def strip (s : Bytes) : Bytes := ((s.dropWhile isspace).reverse.dropWhile isspace).reverse

/-- `receive_voter_id`, and the second line of `receive_checkin_response`. -/
def receive (line : Bytes) : Option Value := loads (strip line)

/-! ## Signatures -/

/-- What `verify_signature` checks: `sort_keys=True`, and no `ensure_ascii`. -/
def checked (data : Value) : Bytes := dumps true true data

/-- `verify_signature` -/
def verifySignature (lib : Libraries) (publicKey : EnvelopeKey) (data : Value) (sigB64 : Value) :
    Option Bool :=
  match sigB64 with
  | .str text =>
    match b64decode text with
    | some signature =>
      match lib.verify publicKey (checked data) signature with
      | .ok valid => some valid
      | .error _ => none
    | none => none
  | _ => none

/-- `vvid_data` -/
def vvidData (response : Value) : Option Value :=
  match response.get "presented_id", response.get "voter_unique_id" with
  | some presentedId, some voterUniqueId =>
    some (.dict [("presented_id", presentedId), ("voter_unique_id", voterUniqueId)])
  | _, _ => none

/-! ## The check-in service -/

/-- `checkin_body` -/
def checkinBody (cfg : Cfg) (timestamp : UInt64) (v : Voter) (response : Value) : Option Value :=
  match response.get "voter_unique_id" with
  | some voterUniqueId =>
    some (.dict [
      ("client_id_num", .int cfg.clientId.toNat),
      ("timestamp", .int timestamp.toNat),
      ("first_name", .str v.firstName),
      ("middle_name", .str v.middleName),
      ("last_name", .str v.lastName),
      ("voter_unique_id", voterUniqueId),
      ("verified_id_message", response)])
  | none => none

/-- What `main` signs: `sort_keys=True`, and no `ensure_ascii`. -/
def checkinSigned (body : Value) : Bytes := dumps true true body

/-- `checkin_request` -/
def checkinRequest (lib : Libraries) (cfg : Cfg) (body : Value) : Value :=
  .dict [
    ("body", body),
    ("client_signature", .str (b64encode (lib.sign cfg.privateKey (checkinSigned body))))]

end PyClient

end Pollbook

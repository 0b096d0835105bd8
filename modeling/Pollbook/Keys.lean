import Pollbook.Common

/-!
# The clients' keys

Both services pin the key a client's first certificate shows, write it into
the key folder, and read the folder when they start. The functions here are
those of `checkin_service.cpp` and `voter_id_service.cpp` where the two are the
same.
-/

namespace Pollbook

/-! ## Handshakes -/

/-- The key of a certificate: kept, in memory and in `file`, when it is the
first of its client, and compared with the one kept otherwise. -/
def Keys.admitKey (k : Keys) (file : Bytes) (savesKey : Bool) (clientId : UInt32)
    (key : EnvelopeKey) : Keys :=
  match k.clientPublicKeys clientId with
  | some old =>
    if old = key then { k with clientVerifiers := k.clientVerifiers.emplace clientId key } else k
  | none =>
    { clientPublicKeys := k.clientPublicKeys.set clientId key
      clientVerifiers := k.clientVerifiers.emplace clientId key
      pemFiles := if savesKey then k.pemFiles.set file (.publicKey key) else k.pemFiles }

/-! ## Startup -/

/-- The keys of a process that has read no file yet. -/
def Keys.onDisk (pemFiles : Map Bytes PemFile) : Keys where
  clientVerifiers := Map.empty
  clientPublicKeys := Map.empty
  pemFiles := pemFiles

/-- `.` -/
def dot : UInt8 := 46

/-- `key_file_name.substr(0, key_file_name.find_last_of("."))` -/
def withoutExtension (name : Bytes) : Bytes :=
  if dot ∈ name then (name.reverse.dropWhile (· ≠ dot)).tail.reverse else name

/-- `s.erase(s.find(part), part.size())`; there may be nothing to find. -/
def eraseFirst (part : Bytes) : Bytes → Option Bytes
  | [] => if part = [] then some [] else none
  | b :: s =>
    if part.isPrefixOf (b :: s) then some ((b :: s).drop part.length)
    else (eraseFirst part s).map (b :: ·)

/-- The client whose key is in a file of this name. -/
def clientIdOfFile (clientKeyFilePrefix name : Bytes) : Cpp UInt32 :=
  match eraseFirst clientKeyFilePrefix (withoutExtension name) with
  | some id => do pure (← stoul id).toUInt32
  | none => .error (.outOfRange "basic_string::erase")

/-- `load_client_public_keys` on the entries of the key folder, in the order the
directory iterator gives them. A file that is no key ends the scan; one that
cannot be opened throws. -/
def Keys.loadClientPublicKeys (clientKeyFilePrefix : Bytes) (k : Keys) :
    List (Bytes × PemFile) → Cpp Keys
  | [] => .ok k
  | (_, .invalid) :: _ => .ok k
  | (_, .unopenable permissionDenied) :: _ => .error (PemFile.openError permissionDenied)
  | (name, .publicKey key) :: entries => do
    let clientId ← clientIdOfFile clientKeyFilePrefix name
    let k : Keys :=
      { k with
        clientVerifiers := k.clientVerifiers.emplace clientId key
        clientPublicKeys := k.clientPublicKeys.emplace clientId key }
    k.loadClientPublicKeys clientKeyFilePrefix entries

/-- The directory `load_client_public_keys` iterates over. -/
def keyFolder (clientKeysFolder : Bytes) : Bytes := clientKeysFolder ++ [slash]

/-- The entries are those of a directory: one for each file in it, by its
name. -/
structure Lists (pemFiles : Map Bytes PemFile) (folder : Bytes) (entries : List (Bytes × PemFile)) :
    Prop where
  mem_iff : ∀ name file, (name, file) ∈ entries ↔
    name ≠ [] ∧ slash ∉ name ∧ pemFiles (normalize (folder ++ name)) = some file

end Pollbook

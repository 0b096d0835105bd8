import Pollbook.Checkin.Startup
import Pollbook.Verify.Authorisation
import Pollbook.Verify.Identity

/-!
# Trusted clients

A client is trusted if the number in its certificate is in the file of trusted
clients. The number of the certificate is read with `stoul` and narrowed to 32
bits, the numbers in the file are read with `>>`, which refuses what does not
fit; so a client with a number of 33 bits is taken for another one, and trusted
if that one is (`large_number_is_trusted`). Numbers of 32 bits are told apart, and
the file decides by them, if it has no minus signs (`trust_follows_the_number`).
-/

namespace Pollbook

/-! ## The numbers in the file -/

/-- The number a line starts with. -/
def leadingNumber (line : Bytes) : Option Int :=
  let (negative, s) := sign (line.dropWhile isspace)
  let ds := s.takeWhile isdigit
  if ds = [] then none
  else some (if negative then -(digitsValue ds : Int) else (digitsValue ds : Int))

/-- A line of the file starts with the number. -/
def Leads (file : Bytes) (n : Int) : Prop := ∃ line ∈ lines file, leadingNumber line = some n

namespace CheckinService

/-- A number of less than 32 bits and a sign, narrowed. -/
theorem narrowed_eq_iff {negative : Bool} {d : Nat} {id : UInt32} (hd : d < 2 ^ 32) :
    (if negative then -UInt32.ofNat d else UInt32.ofNat d) = id ↔
      (if negative then -(d : Int) else (d : Int)) = id.toNat ∨
        id ≠ 0 ∧ (if negative then -(d : Int) else (d : Int)) = (id.toNat : Int) - 2 ^ 32 := by
  have hid := id.toNat_lt
  have hzero : id ≠ 0 ↔ id.toNat ≠ 0 := by
    rw [ne_eq, ← UInt32.toNat_inj, UInt32.toNat_zero]
  rw [hzero, ← UInt32.toNat_inj]
  cases negative with
  | false =>
    simp only [Bool.false_eq_true, if_false, UInt32.toNat_ofNat']
    omega
  | true =>
    simp only [if_true, UInt32.toNat_neg, UInt32.toNat_ofNat', UInt32.size]
    omega

/-- What `>>` makes of a line. -/
theorem extractUInt32_eq_some {line : Bytes} {id : UInt32} :
    extractUInt32 line = some id ↔
      leadingNumber line = some (id.toNat : Int) ∨
        id ≠ 0 ∧ leadingNumber line = some ((id.toNat : Int) - 2 ^ 32) := by
  have hid := id.toNat_lt
  unfold extractUInt32 leadingNumber
  obtain ⟨negative, s⟩ := sign (line.dropWhile isspace)
  dsimp only
  generalize s.takeWhile isdigit = ds
  by_cases hds : ds = []
  · simp [hds]
  by_cases hd : 2 ^ 32 ≤ digitsValue ds
  · rw [if_pos (.inr hd), if_neg hds, Option.some.injEq, Option.some.injEq]
    have hzero : id ≠ 0 → id.toNat ≠ 0 := fun hne h => hne (UInt32.toNat_inj.mp h)
    constructor
    · rintro ⟨⟩
    · intro h
      exfalso
      cases negative with
      | false =>
        simp only [Bool.false_eq_true, if_false] at h
        omega
      | true =>
        simp only [if_true] at h
        rcases h with h | ⟨hne, h⟩
        · omega
        · have := hzero hne
          omega
  · rw [if_neg (not_or.mpr ⟨hds, hd⟩), if_neg hds, Option.some.injEq, Option.some.injEq,
      Option.some.injEq]
    exact narrowed_eq_iff (Nat.lt_of_not_le hd)

theorem mem_loadTrustedClients {file : Bytes} {id : UInt32} :
    id ∈ loadTrustedClients file ↔
      Leads file id.toNat ∨ id ≠ 0 ∧ Leads file ((id.toNat : Int) - 2 ^ 32) := by
  unfold loadTrustedClients Leads
  rw [List.mem_filterMap]
  simp only [extractUInt32_eq_some]
  constructor
  · rintro ⟨line, hline, hn | ⟨hne, hn⟩⟩
    · exact .inl ⟨line, hline, hn⟩
    · exact .inr ⟨hne, line, hline, hn⟩
  · rintro (⟨line, hline, hn⟩ | ⟨hne, line, hline, hn⟩)
    · exact ⟨line, hline, .inl hn⟩
    · exact ⟨line, hline, .inr ⟨hne, hn⟩⟩

/-! ## The number in a certificate -/

/-- The certificate's common name is `Client` with a number, in these digits. -/
structure Numbered (cert : Certificate) (ds : Bytes) : Prop where
  name : cert.commonName = some (bytes "Client " ++ ds)
  digits : ∀ b ∈ ds, isdigit b = true

/-- The number `get_client_id_from_cert` has in its buffer of 255 characters. -/
def buffered (ds : Bytes) : Nat := digitsValue (ds.take 248)

theorem isdigit_ne {b : UInt8} (h : isdigit b = true) : b ≠ 0 ∧ b ≠ space := by
  constructor
  · rintro rfl
    exact absurd h (by decide)
  · rintro rfl
    exact absurd h (by decide)

/-- The second word of the name is the digits. -/
theorem secondWord_client {ds : Bytes} (h : ∀ b ∈ ds, isdigit b = true) :
    secondWord (bytes "Client " ++ ds) = ds := by
  have hbytes : bytes "Client " = bytes "Client" ++ [space] := by decide +kernel
  have hclient : ∀ b ∈ bytes "Client", decide (b ≠ space) = true := by decide +kernel
  have hdrop : (bytes "Client " ++ ds).dropWhile (· ≠ space) = space :: ds := by
    rw [hbytes, List.append_assoc, List.dropWhile_append_of_pos hclient]
    exact List.dropWhile_cons_of_neg (by simp)
  have hmem : space ∈ bytes "Client " ++ ds := by
    rw [hbytes]
    simp
  unfold secondWord
  rw [if_pos hmem, hdrop]
  exact List.takeWhile_eq_self_iff.mpr fun b hb => decide_eq_true (isdigit_ne (h b hb)).2

/-- `stoul` on nothing but digits. -/
theorem stoul_digits {ds : Bytes} (h : ∀ b ∈ ds, isdigit b = true) {n : UInt64}
    (hn : stoul ds = .ok n) : n.toNat = digitsValue ds := by
  have hspace : ds.dropWhile isspace = ds := by
    cases ds with
    | nil => rfl
    | cons b ds =>
      exact List.dropWhile_cons_of_neg (by
        rw [not_isspace_of_isdigit (h b List.mem_cons_self)]
        exact Bool.false_ne_true)
  have hsign : sign ds = (false, ds) := by
    cases ds with
    | nil => rfl
    | cons b ds => exact sign_of_isdigit (h b List.mem_cons_self) ds
  have htake : ds.takeWhile isdigit = ds := List.takeWhile_eq_self_iff.mpr h
  unfold stoul at hn
  rw [hspace, hsign] at hn
  dsimp only at hn
  rw [htake] at hn
  split at hn
  · cases hn
  split at hn
  · cases hn
  · next hlt =>
    rw [if_neg Bool.false_ne_true] at hn
    rw [← Except.ok.inj hn, UInt64.toNat_ofNat', Nat.mod_eq_of_lt (Nat.lt_of_not_le hlt)]

/-- A client's number is narrowed to 32 bits. -/
theorem getClientIdFromCert_numbered {cert : Certificate} {ds : Bytes} {id : UInt32}
    (h : Numbered cert ds) (hid : getClientIdFromCert cert = .ok id) :
    id.toNat = buffered ds % 2 ^ 32 := by
  have hdigits : ∀ b ∈ ds.take 248, isdigit b = true :=
    fun b hb => h.digits b (List.mem_of_mem_take hb)
  have hbuffer : ((bytes "Client " ++ ds).take 255).takeWhile (· ≠ 0) =
      bytes "Client " ++ ds.take 248 := by
    have hlength : (bytes "Client ").length = 7 := by decide +kernel
    rw [List.take_append, hlength, List.take_of_length_le (by rw [hlength]; decide)]
    apply List.takeWhile_eq_self_iff.mpr
    intro b hb
    rcases List.mem_append.mp hb with hb | hb
    · have hclient : ∀ b ∈ bytes "Client ", decide (b ≠ 0) = true := by decide +kernel
      exact hclient b hb
    · exact decide_eq_true (isdigit_ne (hdigits b hb)).1
  unfold getClientIdFromCert at hid
  rw [h.name] at hid
  dsimp only at hid
  rw [hbuffer, secondWord_client hdigits] at hid
  obtain ⟨n, hstoul, hn⟩ := bind_eq_ok.mp hid
  rw [← Except.ok.inj hn, UInt64.toNat_toUInt32, stoul_digits hdigits hstoul]
  rfl

/-! ## Dispatching -/

variable {env : Env} {io : Io} {found : Surroundings} {s₀ s : CheckinService}
  {clientIp : Endpoint} {tr : List (Event × List Action)}

/-- The message on a connection is handed to `handle_trusted_client`. -/
def DispatchedTrusted (env : Env) (io : Io) (s : CheckinService) (clientIp : Endpoint)
    (msgString : Bytes) : Prop :=
  ∃ id, (s.dispatch env io msgString clientIp).actions.head? =
    some (.dispatched clientIp id .trustedClient msgString)

theorem dispatchedTrusted_iff {msgString : Bytes} :
    DispatchedTrusted env io s clientIp msgString ↔
      ∃ id info, s.clientIdMap clientIp = some id ∧ s.clients id = some info ∧
        info.type = .trustedClient := by
  unfold DispatchedTrusted dispatch
  cases hid : s.clientIdMap clientIp with
  | none =>
    constructor
    · rintro ⟨id, h⟩
      cases h
    · rintro ⟨id, info, h, -⟩
      cases h
  | some id =>
    dsimp only
    cases hinfo : s.clients id with
    | none =>
      constructor
      · rintro ⟨id', h⟩
        cases h
      · rintro ⟨id', info, h, hinfo', -⟩
        rw [← Option.some.inj h, hinfo] at hinfo'
        cases hinfo'
    | some info =>
      have hhead : ∀ x : Call Action CheckinService,
          (Call.perform (.dispatched clientIp id info.type msgString) >>=
            fun _ => x).actions.head? = some (.dispatched clientIp id info.type msgString) := by
        intro x
        rw [Call.perform_eq, Call.returned_bind, Call.actions_after]
        rfl
      rw [hhead]
      constructor
      · rintro ⟨id', h⟩
        obtain ⟨-, -, htype, -⟩ := Action.dispatched.inj (Option.some.inj h)
        exact ⟨id, info, rfl, hinfo, htype⟩
      · rintro ⟨id', info', h, hinfo', htype⟩
        obtain rfl := Option.some.inj h
        obtain rfl := Option.some.inj (hinfo.symm.trans hinfo')
        exact ⟨id, by rw [htype]⟩

/-- The certificate shown in the last handshake on an endpoint. -/
def shown (clientIp : Endpoint) (handshakes : List (Endpoint × Option Certificate)) :
    Option Certificate :=
  handshakes.foldl (fun cert h => if h.1 = clientIp then h.2 else cert) none

theorem certifiedId_eq_shown (clientIp : Endpoint)
    (handshakes : List (Endpoint × Option Certificate)) :
    certifiedId clientIp handshakes = (shown clientIp handshakes).bind Certificate.clientId := by
  unfold certifiedId shown
  induction handshakes using List.reverseRecOn with
  | nil => rfl
  | append_singleton handshakes h ih =>
    rw [List.foldl_append, List.foldl_append, ih, List.foldl_cons, List.foldl_cons,
      List.foldl_nil, List.foldl_nil]
    split <;> rfl

/-- A certificate with a key makes its client known. -/
theorem Step.known {s' : CheckinService} {occurrence : Occurrence} {acts : List Action}
    {cert : Certificate} {id : UInt32} (h : Step env io s occurrence s' acts)
    (hocc : occurrence = .handshakeDone clientIp (some cert))
    (hid : getClientIdFromCert cert = .ok id) (hkey : cert.publicKey.isSome = true) :
    (s'.clients id).isSome = true := by
  cases h with
  | @certified _ _ clientId k clients _ _ hid' _ hclients _ =>
    obtain ⟨rfl, heq⟩ := Occurrence.handshakeDone.inj hocc
    obtain rfl := Option.some.inj heq
    obtain rfl := Except.ok.inj (hid'.symm.trans hid)
    change (clients clientId).isSome = true
    rcases hclients with ⟨rfl, hknown⟩ | ⟨-, type, -, rfl⟩
    · exact hknown hkey
    · rw [Map.set_self, Option.isSome_some]
  | _ => cases hocc

theorem known_of_run (hrun : Run (next env) s₀ tr s) {cert : Certificate} {id : UInt32}
    (hshown : shown clientIp (handshakesOf tr) = some cert)
    (hid : getClientIdFromCert cert = .ok id) (hkey : cert.publicKey.isSome = true) :
    (s.clients id).isSome = true := by
  revert hshown
  apply hrun.history (I := fun tr s =>
    shown clientIp (handshakesOf tr) = some cert → (s.clients id).isSome = true)
  · rintro ⟨⟩
  intro tr m e m' acts _ hm hnext hshown
  obtain ⟨-, m₁, hstep, rfl⟩ := next_step hnext
  have hstays (hknown : (m.clients id).isSome = true) : (m₁.clients id).isSome = true := by
    obtain ⟨info, hinfo⟩ := Option.isSome_iff_exists.mp hknown
    rw [hstep.clients_eq_some hinfo, Option.isSome_some]
  rw [handshakesOf_snoc, shown, List.foldl_append] at hshown
  cases hhandshake : e.occurrence.handshake with
  | none =>
    rw [hhandshake] at hshown
    exact hstays (hm hshown)
  | some handshake =>
    obtain ⟨ip, certificate⟩ := handshake
    rw [hhandshake, Option.toList_some, List.foldl_cons, List.foldl_nil] at hshown
    split at hshown
    · subst hshown
      have hocc : e.occurrence = .handshakeDone ip (some cert) := by
        unfold Occurrence.handshake at hhandshake
        split at hhandshake
        · next hocc =>
          cases hhandshake
          exact hocc
        · cases hhandshake
      exact hstep.known hocc hid hkey
    · exact hstays (hm hshown)

/-- The connection of a certificate is a trusted client's if its narrowed
number is in the file. -/
theorem dispatchedTrusted_of_run {file : Bytes} {cert : Certificate} {id : UInt32}
    (hstart : start env found = .ok s₀)
    (hfile : env.config.trustedClients = loadTrustedClients file)
    (hrun : Run (next env) s₀ tr s) (hshown : shown clientIp (handshakesOf tr) = some cert)
    (hid : getClientIdFromCert cert = .ok id) (hkey : cert.publicKey.isSome = true)
    (msgString : Bytes) :
    DispatchedTrusted env io s clientIp msgString ↔ id ∈ loadTrustedClients file := by
  have hmap : s.clientIdMap clientIp = some id := by
    apply clientIdMap_of_certifiedId hrun
    rw [certifiedId_eq_shown, hshown]
    exact Certificate.clientId_eq_some.mpr hid
  rw [dispatchedTrusted_iff, hmap, ← hfile]
  constructor
  · rintro ⟨id', info, h, hinfo, htype⟩
    obtain rfl := Option.some.inj h
    exact (typed_of_run hstart hrun id info hinfo).mp htype
  · intro htrusted
    obtain ⟨info, hinfo⟩ := Option.isSome_iff_exists.mp (known_of_run hrun hshown hid hkey)
    exact ⟨id, info, rfl, hinfo, (typed_of_run hstart hrun id info hinfo).mpr htrusted⟩

/-! ## Trust by number -/

/-- A number the service reads as it is: the name fits in the buffer of 255
characters, and the number in 32 bits. -/
structure NumberFits (ds : Bytes) : Prop where
  length : ds.length ≤ 248
  small : digitsValue ds < 2 ^ 32

/-- A number that fits is not narrowed. -/
theorem NumberFits.clientId {cert : Certificate} {ds : Bytes} {id : UInt32} (h : NumberFits ds)
    (hname : Numbered cert ds) (hid : getClientIdFromCert cert = .ok id) :
    id.toNat = digitsValue ds := by
  rw [getClientIdFromCert_numbered hname hid, buffered, List.take_of_length_le h.length,
    Nat.mod_eq_of_lt h.small]

/-- **Trusted clients.** In every reachable state the messages on a connection
go to `handle_trusted_client` just when the number in its certificate leads a
line of the file, and different numbers are different clients, if the numbers
fit, the certificate has a key and no line of the file starts with a negative
number. -/
theorem trust_follows_the_number {file : Bytes} {cert : Certificate} {ds : Bytes} {id : UInt32}
    (hstart : start env found = .ok s₀)
    (hfile : env.config.trustedClients = loadTrustedClients file)
    (hpositive : ∀ n < 0, ¬ Leads file n) (hrun : Run (next env) s₀ tr s)
    (hshown : shown clientIp (handshakesOf tr) = some cert) (hname : Numbered cert ds)
    (hfits : NumberFits ds) (hkey : cert.publicKey.isSome = true)
    (hid : getClientIdFromCert cert = .ok id) (io : Io) (msgString : Bytes) :
    (DispatchedTrusted env io s clientIp msgString ↔ Leads file (digitsValue ds)) ∧
    ∀ cert' ds' id', Numbered cert' ds' → NumberFits ds' → getClientIdFromCert cert' = .ok id' →
      id' = id → digitsValue ds' = digitsValue ds := by
  have hnumber : id.toNat = digitsValue ds := hfits.clientId hname hid
  constructor
  · rw [dispatchedTrusted_of_run hstart hfile hrun hshown hid hkey, mem_loadTrustedClients,
      hnumber]
    constructor
    · rintro (hleads | ⟨-, hleads⟩)
      · exact hleads
      · -- the minus sign that would be negated in 32 bits
        have hnegative : (digitsValue ds : Int) - 2 ^ 32 < 0 := by
          have hsmall := hfits.small
          omega
        exact absurd hleads (hpositive _ hnegative)
    · exact .inl
  · rintro cert' ds' id' hname' hfits' hid' rfl
    rw [← hnumber, hfits'.clientId hname' hid']

section Rehearsal

open Rehearsal

/-- The file that makes the tablet a trusted client. -/
def trustedClientsFile : Bytes := bytes "2\n"

/-- A certificate with a number. -/
def numbered (ds : Bytes) : Certificate := ⟨some (bytes "Client " ++ ds), some kioskKey⟩

theorem numbered_digits {ds : Bytes} (h : ∀ b ∈ ds, isdigit b = true) : Numbered (numbered ds) ds :=
  ⟨rfl, h⟩

theorem leads_trustedClientsFile {n : Int} : Leads trustedClientsFile n ↔ n = 2 := by
  have hlines : lines trustedClientsFile = [[50]] := by decide +kernel
  have hleading : leadingNumber [50] = some 2 := by decide
  unfold Leads
  rw [hlines]
  constructor
  · rintro ⟨line, hline, hn⟩
    rw [List.mem_singleton.mp hline, hleading] at hn
    exact (Option.some.inj hn).symm
  · rintro rfl
    exact ⟨[50], List.mem_singleton_self _, hleading⟩

/-- Client 2 is trusted, and so is client 2 + 2^32, which is not in the file. -/
theorem large_number_is_trusted :
    ¬ ∀ (env : Env) (found : Surroundings) (s₀ s : CheckinService)
      (tr : List (Event × List Action)) (file : Bytes) (clientIp : Endpoint) (cert : Certificate)
      (ds : Bytes) (id : UInt32) (io : Io) (msgString : Bytes),
      start env found = .ok s₀ → env.config.trustedClients = loadTrustedClients file →
      Run (next env) s₀ tr s → shown clientIp (handshakesOf tr) = some cert →
      Numbered cert ds → getClientIdFromCert cert = .ok id →
      (DispatchedTrusted env io s clientIp msgString ↔ Leads file (digitsValue ds)) ∧
        ∀ cert' ds' id', Numbered cert' ds' → getClientIdFromCert cert' = .ok id' →
          id' = id → digitsValue ds' = digitsValue ds := by
  intro hall
  have hexec : (exec (next Rehearsal.env) opening
      (connect (instant 1 0) kioskIp (some (numbered (decimal 4294967298))))).any (fun r =>
        decide (shown kioskIp (handshakesOf r.1) = some (numbered (decimal 4294967298))) &&
        decide (r.2.clientIdMap kioskIp = some 2) &&
        decide (r.2.clients 2 = some ⟨2, .trustedClient⟩)) = true := by
    decide +kernel
  obtain ⟨tr, s, hrun, hs⟩ := Run.exists_of_exec hexec
  simp only [Bool.and_eq_true, decide_eq_true_eq] at hs
  obtain ⟨⟨hshown, hmap⟩, hinfo⟩ := hs
  have htrusted := (hall Rehearsal.env Rehearsal.found opening s tr trustedClientsFile kioskIp _
    (decimal 4294967298) 2 (instant 1 0) [] start_opening (by decide +kernel) hrun hshown
    (numbered_digits fun b hb => isdigit_of_mem_decimal hb) (by decide +kernel)).1.mp
    (dispatchedTrusted_iff.mpr ⟨2, _, hmap, hinfo, rfl⟩)
  rw [leads_trustedClientsFile, digitsValue_decimal] at htrusted
  exact absurd htrusted (by decide)

/-- The messages of client 2 go to `handle_trusted_client`. -/
theorem trust_follows_the_number_rehearsal :
    ∃ tr s, Run (next Rehearsal.env) opening tr s ∧
      shown tabletIp (handshakesOf tr) = some (numbered (decimal 2)) ∧
      DispatchedTrusted Rehearsal.env (instant 2 0) s tabletIp [] := by
  have hexec : (exec (next Rehearsal.env) opening
      (connect (instant 1 0) tabletIp (some (numbered (decimal 2))))).any (fun r =>
        decide (shown tabletIp (handshakesOf r.1) = some (numbered (decimal 2)))) = true := by
    decide +kernel
  obtain ⟨tr, s, hrun, hs⟩ := Run.exists_of_exec hexec
  have hshown := of_decide_eq_true hs
  have hid : getClientIdFromCert (numbered (decimal 2)) = .ok 2 := by decide +kernel
  refine ⟨tr, s, hrun, hshown, ?_⟩
  have hiff := (trust_follows_the_number start_opening (by decide +kernel)
    (fun n hn h => absurd (leads_trustedClientsFile.mp h) (by omega)) hrun hshown
    (numbered_digits fun b hb => isdigit_of_mem_decimal hb) ⟨by decide, by decide⟩ rfl hid
    (instant 2 0) []).1
  rw [hiff, leads_trustedClientsFile, digitsValue_decimal]
  rfl

end Rehearsal

end CheckinService

end Pollbook

import Pollbook.Verify.Agreement
import Pollbook.Verify.Freshness
import Pollbook.Verify.IdOutcomes

/-!
# Freshness arithmetic

The two services compare timestamps in three places, all in the same way: the
difference is taken unsigned, converted to `int64_t` and given to `std::abs`.
The conversion wraps around from `2^63` on, and `std::abs` leaves the least
integer negative, so some timestamps half a range away, and those a whole range
away, pass for fresh. `freshness_is_distance` says for each check which ones.
-/

namespace Pollbook

/-! ## The comparison -/

theorem stale_eq_false_iff {F : UInt32} {a ts : UInt64} :
    stale F a ts = false ↔
      distance a ts ≤ F.toNat ∨ 2 ^ 64 ≤ distance a ts + F.toNat ∨ distance a ts = 2 ^ 63 := by
  refine ⟨distance_of_not_stale, fun h => ?_⟩
  unfold stale
  rw [decide_eq_false_iff_not, gt_iff_lt, Int64.lt_iff_toInt_lt, Int.not_lt, toInt_toInt64,
    UInt32.toNat_toUInt64]
  have hF := F.toNat_lt
  rw [if_pos (by omega)]
  by_cases hmin : (timeDifference a ts).toBitVec = BitVec.intMin 64
  · have habs : (timeDifference a ts).abs.toInt = -2 ^ 63 := by
      rw [← Int64.toInt_toBitVec, Int64.toBitVec_abs, hmin]
      decide
    omega
  · have habs := BitVec.toInt_abs_eq_natAbs_of_ne_intMin hmin
    rw [Int64.toInt_toBitVec] at habs
    have hint : (timeDifference a ts).toInt ≠ -2 ^ 63 := by
      intro heq
      apply hmin
      rw [← BitVec.toInt_inj, Int64.toInt_toBitVec, heq]
      decide
    have habs' : (timeDifference a ts).abs.toInt = (timeDifference a ts).toInt.natAbs := habs
    rw [habs']
    rw [toInt_timeDifference] at hint ⊢
    have hd : distance a ts < 2 ^ 64 := by
      have ha := a.toNat_lt
      have hts := ts.toNat_lt
      unfold distance
      omega
    split at hint <;> omega

/-- The distance is not one that wraps around into the window. -/
def Unwrapped (F : UInt32) (a ts : UInt64) : Prop :=
  distance a ts ≠ 2 ^ 63 ∧ distance a ts + F.toNat < 2 ^ 64

/-- The comparison is right just when nothing wraps around. -/
theorem fresh_iff_unwrapped {F : UInt32} {a ts : UInt64} :
    (stale F a ts = false ↔ distance a ts ≤ F.toNat) ↔ Unwrapped F a ts := by
  have hF := F.toNat_lt
  rw [stale_eq_false_iff]
  unfold Unwrapped
  omega

/-! ## Check-in requests -/

namespace CheckinService

/-- Nothing but the timestamp can be wrong with a check-in request. -/
structure GenuineCheckin (env : Env) (s : CheckinService) (request : CheckinRequest) : Prop where
  client : ∃ key text, s.clientVerifiers request.body.clientIdNum = some key ∧
    env.dump (request.body.toJson env.toCodec) = .ok text ∧
    env.verify key text request.clientSignature = .ok true
  idService : ∃ text, env.dump (idStatement env.toCodec
      request.body.verifiedIdMessage.presentedId request.body.verifiedIdMessage.voterUniqueId) =
      .ok text ∧
    env.verify env.config.idServicePublicKey text
      request.body.verifiedIdMessage.idServiceSignature = .ok true
  voter : request.body.voterUniqueId = request.body.verifiedIdMessage.voterUniqueId

/-- The check-in request passes. -/
def CheckinPasses (env : Env) (s : CheckinService) (request : CheckinRequest) (now : UInt64) :
    Prop :=
  ∃ acts, s.validateClientRequest env request now = .returned true acts

theorem GenuineCheckin.passes_iff {env : Env} {s : CheckinService} {request : CheckinRequest}
    (h : GenuineCheckin env s request) (now : UInt64) :
    CheckinPasses env s request now ↔
      stale env.config.requestFreshnessInterval now request.body.timestamp = false := by
  obtain ⟨⟨key, text, hkey, hbody, hclient⟩, ⟨idMsg, hstatement, hid⟩, hvoter⟩ := h
  have hreturned : ∃ acts, s.validateClientRequest env request now =
      .returned (!stale env.config.requestFreshnessInterval now request.body.timestamp) acts := by
    unfold validateClientRequest verifyBytes
    simp only [hbody, mapAt_eq_ok.mpr hkey, hclient, hstatement, hid, Call.ofCpp_ok,
      Call.returned_bind, Call.after_nil, if_true, Call.perform_eq, Call.pure_eq,
      Call.after_returned, Bool.not_true, Bool.false_eq_true, if_false]
    rw [if_neg (fun hne => hne hvoter)]
    exact ⟨_, rfl⟩
  obtain ⟨acts, hreturned⟩ := hreturned
  unfold CheckinPasses
  rw [hreturned]
  constructor
  · rintro ⟨_, heq⟩
    rw [Call.returned.injEq, Bool.not_eq_true'] at heq
    exact heq.1
  · intro hfresh
    rw [hfresh]
    exact ⟨acts, rfl⟩

/-! ## Ticket requests -/

/-- The fault of a ticket request that is not fresh. -/
def staleTicket : String := "Ticket request timestamp outside freshness interval"

/-- Nothing before the timestamp is wrong with a ticket request. -/
structure GenuineTicket (env : Env) (s : CheckinService) (clientIp : Endpoint)
    (request : TicketRequest) : Prop where
  identity : s.clientIdMap clientIp = some request.body.clientId
  ticket : ∃ binding, s.clientTicketsMap request.body.ticket = some binding
  client : ∃ s₁ key text, s.ensureVerifier env request.body.clientId = some s₁ ∧
    s₁.clientVerifiers request.body.clientId = some key ∧
    env.dump request.body.toJson = .ok text ∧ env.verify key text request.signature = .ok true

/-- The ticket request is not turned away as too old. -/
def TicketPasses (env : Env) (io : Io) (s : CheckinService) (clientIp : Endpoint)
    (request : TicketRequest) : Prop :=
  .reportFault request.body.clientId staleTicket ∉
    (s.handleTicketRequest env io clientIp request).actions

theorem GenuineTicket.passes_iff {env : Env} {s : CheckinService} {clientIp : Endpoint}
    {request : TicketRequest} (h : GenuineTicket env s clientIp request) (io : Io) :
    TicketPasses env io s clientIp request ↔
      stale env.config.requestFreshnessInterval io.systemNow request.body.timestamp = false := by
  obtain ⟨hidentity, ⟨⟨voterId, secret⟩, hticket⟩, hclient⟩ := h
  obtain ⟨s₁, key, text, hensure, hkey, hbody, hverify⟩ := hclient
  have hverified : verifyBytes env key text request.signature =
      .returned true [.verified key text request.signature] := by
    unfold verifyBytes
    rw [hverify]
    rfl
  unfold TicketPasses handleTicketRequest
  simp only [hidentity, Option.getD_some, ne_eq, not_true_eq_false, if_false, hticket, hensure,
    hbody, mapAt_eq_ok.mpr hkey, Call.ofCpp_ok, Call.returned_bind, Call.after_nil]
  rw [hverified, Call.returned_bind, Call.actions_after]
  simp only [Bool.not_true, Bool.false_eq_true, if_false]
  cases stale env.config.requestFreshnessInterval io.systemNow request.body.timestamp with
  | true =>
    simp [rejectWith, staleTicket, Call.perform_eq, Call.returned_bind, Call.pure_eq, Call.after,
      Call.actions]
  | false =>
    simp only [iff_true, Bool.false_eq_true, if_false]
    intro hmem
    have hperforms : Call.Performs
        (fun a => a ≠ .reportFault request.body.clientId staleTicket)
        (if decimal request.body.pin.toNat ≠
            (findVoter env.config.voterListFile voterId).pin then do
            s₁.sendTicketResponse env clientIp request (ticketResponseBody false
              (findVoter env.config.voterListFile voterId) voterId [] request.body.pin)
            return s₁
          else s₁.redeemTicket env io clientIp request request.body.clientId voterId secret) := by
      split
      · refine Call.performs_bind (sendTicketResponse_performs ?_ _) fun _ => Call.performs_pure _
        rintro response ⟨⟩
      · refine redeemTicket_performs ?_ ?_ io voterId secret
        · rintro response ⟨⟩
        · intro faultDesc hfault heq
          rw [(Action.reportFault.inj heq).2] at hfault
          exact absurd hfault (by decide)
    rcases List.mem_append.mp hmem with hmem | hmem
    · rw [List.mem_singleton] at hmem
      cases hmem
    · exact hperforms _ hmem rfl

end CheckinService

/-! ## Requests to the ID service -/

namespace VoterIDService

/-- Nothing but the timestamp can be wrong with a request to the ID service. -/
structure GenuineRequest (env : Env) (s : VoterIDService) (request : VoterIDRequest)
    (voterUniqueId : UInt32) : Prop where
  idData : validateAndMatchIdData request.body.voterIdData = .ok voterUniqueId
  valid : voterUniqueId ≠ invalidVoterId
  name : s.validateVoterName request.body.firstName request.body.middleName
    request.body.lastName voterUniqueId = true
  client : ∃ s₁ key text, s.ensureVerifier env request.body.clientIdNum = .ok (some s₁) ∧
    s₁.clientVerifiers request.body.clientIdNum = some key ∧
    env.dump (request.body.toJson env.toCodec) = .ok text ∧
    env.verify key text request.clientSignature = .ok true
  statement : ∃ text, env.dump (idStatement env.toCodec request voterUniqueId) = .ok text

/-- The service signs a statement for the request. -/
def RequestPasses (env : Env) (io : Io) (s : VoterIDService) (clientIp : Endpoint)
    (request : VoterIDRequest) : Prop :=
  ∃ text, .signed text ∈ (s.handleValidationRequest env io clientIp request).actions

/-- A fresh request is endorsed: the service signs the statement about it. -/
theorem GenuineRequest.endorsed {env : Env} {io : Io} {s : VoterIDService}
    {request : VoterIDRequest} {voterUniqueId : UInt32}
    (h : GenuineRequest env s request voterUniqueId) (clientIp : Endpoint)
    (hfresh : stale env.config.requestFreshnessInterval io.systemNow request.body.timestamp =
      false) :
    .signed (env.render (idStatement env.toCodec request voterUniqueId)) ∈
      (s.handleValidationRequest env io clientIp request).actions := by
  obtain ⟨hdata, hvalid, hname, ⟨s₁, key, text, hensure, hkey, hbody, hverify⟩,
    statement, hstatement⟩ := h
  obtain ⟨-, rfl⟩ := Codec.dump_eq_ok hstatement
  unfold handleValidationRequest
  rw [hfresh, if_neg Bool.false_ne_true, hdata, Call.ofCpp_ok, Call.returned_bind, Call.after_nil,
    if_neg hvalid, hname, hensure]
  simp only [Bool.not_true, Bool.false_eq_true, if_false, Call.ofCpp_ok, Call.returned_bind,
    Call.after_nil]
  unfold checkRequest
  simp only [hbody, mapAt_eq_ok.mpr hkey, hverify, Call.ofCpp_ok, Call.returned_bind,
    Call.after_nil, if_true, Call.perform_eq, Call.pure_eq, Call.after_returned, Bool.not_true,
    Bool.false_eq_true, if_false, Call.actions_after]
  unfold endorse
  rw [hstatement, Call.ofCpp_ok, Call.returned_bind, Call.after_nil, Call.perform_eq,
    Call.returned_bind, Call.actions_after]
  simp

theorem GenuineRequest.passes_iff {env : Env} {s : VoterIDService} {request : VoterIDRequest}
    {voterUniqueId : UInt32} (h : GenuineRequest env s request voterUniqueId) (io : Io)
    (clientIp : Endpoint) :
    RequestPasses env io s clientIp request ↔
      stale env.config.requestFreshnessInterval io.systemNow request.body.timestamp = false := by
  constructor
  · rintro ⟨text, hsigned⟩
    by_contra hstale
    rw [Bool.not_eq_false] at hstale
    unfold handleValidationRequest at hsigned
    rw [if_pos hstale] at hsigned
    cases hsigned
  · exact fun hfresh => ⟨_, h.endorsed clientIp hfresh⟩

end VoterIDService

/-! ## The three checks -/

section Checks

open CheckinService VoterIDService

/-- Each check lets through the timestamps in the window and no others, just
when the distance to the timestamp is not one that wraps around. -/
theorem freshness_is_distance (env : Env) (idEnv : VoterIDService.Env) :
    (∀ (s : CheckinService) (request : CheckinRequest) (now : UInt64),
      GenuineCheckin env s request →
      ((CheckinPasses env s request now ↔
          distance now request.body.timestamp ≤ env.config.requestFreshnessInterval.toNat) ↔
        Unwrapped env.config.requestFreshnessInterval now request.body.timestamp)) ∧
    (∀ (io : Io) (s : CheckinService) (clientIp : Endpoint) (request : TicketRequest),
      GenuineTicket env s clientIp request →
      ((TicketPasses env io s clientIp request ↔
          distance io.systemNow request.body.timestamp ≤
            env.config.requestFreshnessInterval.toNat) ↔
        Unwrapped env.config.requestFreshnessInterval io.systemNow request.body.timestamp)) ∧
    (∀ (io : VoterIDService.Io) (s : VoterIDService) (clientIp : Endpoint)
        (request : VoterIDRequest) (voterUniqueId : UInt32),
      GenuineRequest idEnv s request voterUniqueId →
      ((RequestPasses idEnv io s clientIp request ↔
          distance io.systemNow request.body.timestamp ≤
            idEnv.config.requestFreshnessInterval.toNat) ↔
        Unwrapped idEnv.config.requestFreshnessInterval io.systemNow request.body.timestamp)) := by
  refine ⟨?_, ?_, ?_⟩
  · intro s request now h
    rw [h.passes_iff now]
    exact fresh_iff_unwrapped
  · intro io s clientIp request h
    rw [h.passes_iff io]
    exact fresh_iff_unwrapped
  · intro io s clientIp request voterUniqueId h
    rw [h.passes_iff io clientIp]
    exact fresh_iff_unwrapped

section Rehearsal

open Rehearsal

/-- The services, when both clients have shown their keys and the voter has a
ticket. -/
def knowing : CheckinService :=
  { opening with
    clientVerifiers := (Map.empty.set kioskId kioskKey).set tabletId tabletKey
    clientIdMap := Map.empty.set tabletIp tabletId
    clientTicketsMap := Map.empty.set (ticket 7) (voter, hex (List.replicate 32 7)) }

def idKnowing : VoterIDService :=
  { idOpening.toVoterIDService with clientVerifiers := Map.empty.set kioskId kioskKey }

theorem utf8_voter : validUtf8 (bytes "Doe") = true ∧ validUtf8 (bytes "Q") = true ∧
    validUtf8 (bytes "Jane") = true := by
  decide +kernel

theorem genuineCheckin (timestamp : UInt64) :
    GenuineCheckin Rehearsal.env knowing (checkinRequest timestamp) := by
  obtain ⟨hlast, hmiddle, hfirst⟩ := utf8_voter
  have hutf8 : (checkinRequest timestamp).body.Utf8 :=
    ⟨hlast, hfirst, hmiddle, hlast, hmiddle, hfirst⟩
  refine ⟨⟨kioskKey, _, rfl, (CheckinRequest.Body.plain_toJson Codec.reference_lawful hutf8).dump _,
    Rehearsal.verifies kioskKey _⟩, ⟨_, (plain_idStatement Codec.reference_lawful
      hutf8.2.2.2 _).dump _, Rehearsal.verifies idServiceKey _⟩, rfl⟩

theorem genuineTicket (timestamp : UInt64) :
    GenuineTicket Rehearsal.env knowing tabletIp (ticketRequest timestamp 7 4321) := by
  have hticket : validUtf8 (ticket 7) = true := by decide +kernel
  have hutf8 : (ticketRequest timestamp 7 4321).body.Utf8 := hticket
  exact ⟨rfl, ⟨_, rfl⟩, knowing, tabletKey, _, rfl, rfl,
    (TicketRequest.Body.plain_toJson hutf8).dump _, Rehearsal.verifies tabletKey _⟩

theorem genuineRequest (timestamp : UInt64) :
    GenuineRequest idEnv idKnowing (idRequest timestamp idData) voter := by
  have hutf8 : (idRequest timestamp idData).body.Utf8 := utf8_voter
  have hname :
      idKnowing.validateVoterName (bytes "Jane") (bytes "Q") (bytes "Doe") voter = true := by
    decide +kernel
  refine ⟨rfl, by decide, hname, ⟨idKnowing, kioskKey, _, rfl, rfl,
    (VoterIDRequest.Body.plain_toJson Codec.reference_lawful hutf8).dump _,
    Rehearsal.verifies kioskKey _⟩, _,
    (plain_idStatement Codec.reference_lawful hutf8 _).dump _⟩

/-- A request from the far future passes, as do the two others. -/
theorem far_future_is_fresh :
    ¬ ∀ (env : Env) (s : CheckinService) (request : CheckinRequest) (now : UInt64),
      GenuineCheckin env s request → (CheckinPasses env s request now ↔
        distance now request.body.timestamp ≤ env.config.requestFreshnessInterval.toNat) := by
  intro hall
  have hpasses : CheckinPasses Rehearsal.env knowing (checkinRequest 9223372036855775808)
      1000000 := by
    rw [(genuineCheckin 9223372036855775808).passes_iff]
    decide
  have hdistance := (hall _ _ _ _ (genuineCheckin 9223372036855775808)).mp hpasses
  exact absurd hdistance (by decide)

/-- Requests of the present pass, and one that is an hour old does not. -/
theorem freshness_is_distance_rehearsal :
    CheckinPasses Rehearsal.env knowing (checkinRequest 1000000) 1000010 ∧
      TicketPasses Rehearsal.env (instant 10 0) knowing tabletIp (ticketRequest 1000000 7 4321) ∧
      ¬ RequestPasses idEnv (idInstant 3600000) idKnowing kioskIp (idRequest 1000000 idData) := by
  obtain ⟨hcheckin, hticket, hrequest⟩ := freshness_is_distance Rehearsal.env idEnv
  refine ⟨?_, ?_, ?_⟩
  · refine ((hcheckin knowing _ 1000010 (genuineCheckin 1000000)).mpr ?_).mpr ?_
    · exact ⟨by decide, by decide⟩
    · decide
  · refine ((hticket (instant 10 0) knowing tabletIp _ (genuineTicket 1000000)).mpr ?_).mpr ?_
    · exact ⟨by decide, by decide⟩
    · decide
  · intro hpasses
    have hdistance := ((hrequest (idInstant 3600000) idKnowing kioskIp _ voter
      (genuineRequest 1000000)).mpr ⟨by decide, by decide⟩).mp hpasses
    exact absurd hdistance (by decide)

end Rehearsal

end Checks

end Pollbook

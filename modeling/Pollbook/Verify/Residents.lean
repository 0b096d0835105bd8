import Pollbook.Verify.Endorsements
import Pollbook.Verify.Rolls
import Pollbook.Verify.Survival

/-!
# Voters on both rolls

The check-in service and the ID service each have a roll of their own. Where the
rows are written as fields between commas, each voter with an own number, both
services find the rows of a voter and read the same names in them, whatever
the case of the letters a user types.
-/

namespace Pollbook

/-! ## Letter case -/

namespace VoterIDService

end VoterIDService

/-! ## Rolls -/

/-- A field that can stand between commas. -/
structure IsField (field : Bytes) : Prop where
  ne_nil : field ≠ []
  comma : comma ∉ field
  newline : newline ∉ field
  utf8 : validUtf8 field = true

/-- A row of a roll, from its fields. -/
def rowText (first : Bytes) (rest : List Bytes) : Bytes := first ++ rest.flatMap (comma :: ·)

theorem rowText_cons (first second : Bytes) (rest : List Bytes) :
    rowText first (second :: rest) = first ++ comma :: rowText second rest := by
  simp [rowText]

theorem pieces_rowText {first : Bytes} {rest : List Bytes}
    (h : ∀ f ∈ first :: rest, f ≠ [] ∧ comma ∉ f) :
    pieces comma (rowText first rest) = first :: rest := by
  induction rest generalizing first with
  | nil =>
    obtain ⟨hne, hcomma⟩ := h first List.mem_cons_self
    rw [rowText, List.flatMap_nil, List.append_nil, pieces_end hne hcomma]
  | cons second rest ih =>
    rw [rowText_cons, pieces_append (h first List.mem_cons_self).2,
      ih fun f hf => h f (List.mem_cons_of_mem _ hf)]

/-- Both rolls have this of a voter. -/
structure Resident where
  uid : UInt32
  lastName : Bytes
  firstName : Bytes
  middleName : Bytes
  address : Bytes
  city : Bytes
  state : Bytes
  zip : Bytes

namespace Resident

def fields (r : Resident) : List Bytes :=
  [r.lastName, r.firstName, r.middleName, r.address, r.city, r.state, r.zip]

/-- The row of the ID service's roll. -/
def row (r : Resident) : Bytes := rowText (decimal r.uid.toNat) r.fields

end Resident

/-- The check-in roll has a PIN too. -/
structure Voter extends Resident where
  pin : UInt32

/-- The row of the check-in roll. -/
def Voter.row (v : Voter) : Bytes :=
  rowText (decimal v.uid.toNat) (decimal v.pin.toNat :: v.fields)

/-- What the check-in service looks up. -/
def Voter.info (v : Voter) : VoterInfo :=
  ⟨v.lastName, v.firstName, v.middleName, decimal v.pin.toNat⟩

/-- The two rolls are about these voters, in rows below a header. -/
structure Rolls (checkinRoll idRoll : Bytes) (voters : List Voter) (residents : List Resident) :
    Prop where
  checkin : (lines checkinRoll).tail = voters.map Voter.row
  id : (lines idRoll).tail = residents.map Resident.row
  voterFields : ∀ v ∈ voters, ∀ f ∈ v.fields, IsField f
  residentFields : ∀ r ∈ residents, ∀ f ∈ r.fields, IsField f
  voterIds : (voters.map (·.uid)).Nodup
  residentIds : (residents.map (·.uid)).Nodup
  valid : ∀ r ∈ residents, r.uid ≠ VoterIDService.invalidVoterId
  names : ∀ v ∈ voters, ∀ r ∈ residents, v.uid = r.uid → v.lastName = r.lastName ∧
    v.firstName = r.firstName ∧ v.middleName = r.middleName

namespace Rolls

variable {checkinRoll idRoll : Bytes} {voters : List Voter} {residents : List Resident}

theorem pieces_row (h : Rolls checkinRoll idRoll voters residents) {r : Resident}
    (hr : r ∈ residents) : pieces comma r.row = decimal r.uid.toNat :: r.fields := by
  refine pieces_rowText fun f hf => ?_
  rcases List.mem_cons.mp hf with rfl | hf
  · exact ⟨decimal_ne_nil _, comma_not_mem_decimal _⟩
  · have hfield := h.residentFields r hr f hf
    exact ⟨hfield.ne_nil, hfield.comma⟩

theorem rowOf_row (h : Rolls checkinRoll idRoll voters residents) {r : Resident}
    (hr : r ∈ residents) (u : UInt32) : VoterIDService.rowOf u r.row = (r.uid == u) := by
  unfold VoterIDService.rowOf
  rw [h.pieces_row hr, List.headD_cons, stoul_decimal_toNat]
  simp [Resident.fields, Except.toOption]

/-- The ID service finds the voter. -/
theorem lastRow_eq (h : Rolls checkinRoll idRoll voters residents) {r : Resident}
    (hr : r ∈ residents) : VoterIDService.lastRow idRoll r.uid = some r.row := by
  unfold VoterIDService.lastRow
  rw [h.id, ← List.map_reverse]
  refine find?_of_unique (List.mem_map_of_mem (List.mem_reverse.mpr hr)) ?_ ?_
  · rw [h.rowOf_row hr, beq_self_eq_true]
  · intro line hline hrow
    obtain ⟨r', hr', rfl⟩ := List.mem_map.mp hline
    rw [List.mem_reverse] at hr'
    rw [h.rowOf_row hr', beq_iff_eq] at hrow
    rw [List.inj_on_of_nodup_map h.residentIds hr' hr hrow]

end Rolls

end Pollbook

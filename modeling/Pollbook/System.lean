import Pollbook.Checkin.Startup
import Pollbook.Client.Loop
import Pollbook.IdService.Loop
import Pollbook.Lib.Interleaving

/-!
# The programs together

A polling place runs one check-in service, one ID service and any number of
clients, side by side. Nothing ties their steps together but the bytes they are
given, and these can be anything: the network may lose, reorder, repeat and make
up messages. A process that crashed can be started again; a client that is
started again is another client with the same keys.

What can be relied on is that signatures are `Unforgeable`: what verifies under
the key of a program was signed before by a program that has this key.
-/

namespace Pollbook

/-- The programs of a polling place, by what they are configured with; `ι` are
the clients. -/
structure Deployment (ι : Type) where
  lib : Libraries
  checkinConfig : Config
  idConfig : VoterIDService.Config
  clients : ι → PollbookClient

namespace Deployment

variable {ι : Type}

def env (d : Deployment ι) : Env := ⟨d.lib, d.checkinConfig⟩

def idEnv (d : Deployment ι) : VoterIDService.Env := ⟨d.lib, d.idConfig⟩

/-- The clients and the check-in service know the keys of the services. -/
structure Introduced (d : Deployment ι) : Prop where
  idService : d.checkinConfig.idServicePublicKey = d.idConfig.localPrivateKey
  clientsIdService : ∀ i, (d.clients i).idServiceVerifier = d.idConfig.localPrivateKey
  clientsCheckinService : ∀ i,
    (d.clients i).checkinServiceVerifier = d.checkinConfig.localPrivateKey

/-- One of the programs has this key. -/
def Holds (d : Deployment ι) (key : EnvelopeKey) : Prop :=
  key = d.checkinConfig.localPrivateKey ∨ key = d.idConfig.localPrivateKey ∨
    ∃ i, key = (d.clients i).privateKeySigner

end Deployment

/-! ## States and steps -/

/-- The state of every process, and whether it is running. -/
abbrev System (ι : Type) :=
  (CheckinService × Bool) × ((VoterIDService.Process × Bool) ×
    (ι → PollbookClient.Requester × Bool))

namespace System

variable {ι : Type}

def checkinService (s : System ι) : CheckinService := s.1.1

def idService (s : System ι) : VoterIDService.Process := s.2.1.1

def client (i : ι) (s : System ι) : PollbookClient.Requester := (s.2.2 i).1

/-- The services when they are started, and the clients before their first
requests. -/
def opening (d : Deployment ι) (checkinService : CheckinService)
    (idService : VoterIDService.Process) : System ι :=
  ((checkinService, true), (idService, true), fun i => ((d.clients i).idle, true))

/-- What happens at one of the processes. -/
abbrev Happening (ι : Type) :=
  (Event ⊕ CheckinService.Reboot) ⊕ ((VoterIDService.Event ⊕ VoterIDService.Process.Reboot) ⊕
    (ι × (PollbookClient.Requester.Turn ⊕ Empty)))

/-- What it does then. -/
abbrev Deeds :=
  List Action ⊕ (List VoterIDService.Action ⊕ List PollbookClient.Action)

variable [DecidableEq ι]

/-- The check-in service with its crashes and restarts. -/
abbrev nextCheckinService (d : Deployment ι) :=
  mortal (CheckinService.next d.env) (CheckinService.crash d.env) (CheckinService.reboot d.env)

/-- The ID service with its crashes and restarts. -/
abbrev nextIdService (d : Deployment ι) :=
  mortal (VoterIDService.Process.next d.idEnv) (VoterIDService.Process.crash d.idEnv)
    (VoterIDService.Process.reboot d.idEnv)

/-- A client with its crash. -/
abbrev nextClient (d : Deployment ι) :=
  mortal (PollbookClient.Requester.nextTurn d.lib) (PollbookClient.Requester.crashTurn d.lib)
    fun _ (r : Empty) => r.elim

/-- One step of one of the processes. -/
def next (d : Deployment ι) : System ι → Happening ι → Option (System ι × Deeds) :=
  beside (nextCheckinService d) (beside (nextIdService d) (family (nextClient d)))

/-! ## The parts -/

/-- A step of the check-in service. -/
def checkinStep : Happening ι × Deeds → Option ((Event ⊕ CheckinService.Reboot) × List Action) :=
  firstStep

/-- A step of the ID service. -/
def idStep (x : Happening ι × Deeds) :
    Option ((VoterIDService.Event ⊕ VoterIDService.Process.Reboot) ×
      List VoterIDService.Action) :=
  (secondStep x).bind firstStep

/-- A step of the client `i`. -/
def clientStep (i : ι) (x : Happening ι × Deeds) :
    Option ((PollbookClient.Requester.Turn ⊕ Empty) × List PollbookClient.Action) :=
  ((secondStep x).bind secondStep).bind (memberStep i)

theorem part_checkinService (d : Deployment ι) :
    Part (next d) (nextCheckinService d) Prod.fst checkinStep := beside_first _ _

theorem part_idService (d : Deployment ι) :
    Part (next d) (nextIdService d) (fun s => s.2.1) idStep :=
  (beside_second _ _).trans (beside_first _ _)

theorem part_client (d : Deployment ι) (i : ι) :
    Part (next d) (nextClient d) (fun s => s.2.2 i) (clientStep i) :=
  ((beside_second _ _).trans (beside_second _ _)).trans (family_member _ i)

/-! ## Signatures -/

/-- The text an answer of the check-in service is signed over. -/
def answerText (d : Deployment ι) : Action → Option Bytes
  | .checkinAnswer _ _ response => some (d.lib.render response.body.toJson)
  | .ticketAnswer _ _ response => some (d.lib.render response.body.toJson)
  | _ => none

/-- What is signed at a step, with the key. A signature of the check-in service
that is not sent is not there. -/
def signs (d : Deployment ι) : Happening ι × Deeds → List (EnvelopeKey × Bytes)
  | (.inl _, .inl acts) =>
    (acts.filterMap (answerText d)).map fun text => (d.checkinConfig.localPrivateKey, text)
  | (.inr (.inl _), .inr (.inl acts)) => acts.filterMap fun a =>
    match a with
    | .signed text => some (d.idConfig.localPrivateKey, text)
    | _ => none
  | (.inr (.inr (i, _)), .inr (.inr acts)) => acts.filterMap fun a =>
    match a with
    | .signed text => some ((d.clients i).privateKeySigner, text)
    | _ => none
  | _ => []

/-- What verifies at a step, with the key. -/
def verifies : Happening ι × Deeds → List (EnvelopeKey × Bytes)
  | (_, .inl acts) => acts.filterMap fun a =>
    match a with
    | .verified key text _ => some (key, text)
    | _ => none
  | (_, .inr (.inl acts)) => acts.filterMap fun a =>
    match a with
    | .verified key text _ => some (key, text)
    | _ => none
  | (_, .inr (.inr acts)) => acts.filterMap fun a =>
    match a with
    | .verified key text _ => some (key, text)
    | _ => none

/-- What verifies under the key of a program, a program with this key signed
before. -/
def Unforgeable (d : Deployment ι) (tr : List (Happening ι × Deeds)) : Prop :=
  ∀ pre x post, tr = pre ++ x :: post → ∀ y ∈ verifies x, d.Holds y.1 → ∃ z ∈ pre, y ∈ signs d z

/-- All that verifies in the trace was signed before, to be evaluated. -/
def verifiedWereSigned (d : Deployment ι) : List (Happening ι × Deeds) → Bool
  | tr => (List.range tr.length).all fun n =>
    ((tr.drop n).head?.map verifies).all fun l =>
      l.all fun y => ((tr.take n).flatMap (signs d)).contains y

end System

end Pollbook

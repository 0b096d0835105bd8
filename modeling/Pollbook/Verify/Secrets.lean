import Pollbook.Rehearsal
import Pollbook.Verify.Sessions
import Pollbook.Verify.Views

/-!
# Who sees a voter's secret

Two runs on the same events, in which other secrets are drawn, differ in the
tickets in memory, in the ticket file, and in the approvals of ticket requests;
they are the same in everything else (`secrets_stay_secret`). The secrets are
copied between memory and file, but no branch depends on them.
-/

namespace Pollbook

/-! ## Texts with a secret in them -/

/-- A secret in the one run, and what it is in the other. A secret read from a
file can have something in front of it, when the file did not end in a
newline. -/
inductive SecretAlike : Bytes → Bytes → Prop
  | same (s : Bytes) : SecretAlike s s
  | drawn (text : Bytes) (a b : Vector UInt8 32) :
      SecretAlike (text ++ hex a.toList) (text ++ hex b.toList)

theorem SecretAlike.utf8 {s t : Bytes} (h : SecretAlike s t) : validUtf8 s = validUtf8 t := by
  have hascii : ∀ (bs : Bytes) (b : UInt8), b ∈ hex bs → b.toNat < 128 := by
    intro bs b hb
    have hrange := hex_range hb
    omega
  cases h with
  | same => rfl
  | drawn text a b => rw [validUtf8_append (hascii _), validUtf8_append (hascii _)]

/-- The voter and the secret a ticket is bound to. -/
def EntryAlike (x y : UInt32 × Bytes) : Prop := x.1 = y.1 ∧ SecretAlike x.2 y.2

theorem EntryAlike.refl (x : UInt32 × Bytes) : EntryAlike x x := ⟨rfl, .same _⟩

/-- A row of the ticket file. -/
def RowAlike (x y : Bytes × (UInt32 × Bytes)) : Prop := x.1 = y.1 ∧ EntryAlike x.2 y.2

theorem RowAlike.refl (x : Bytes × (UInt32 × Bytes)) : RowAlike x x := ⟨rfl, .refl _⟩

/-- The tickets in memory. -/
def TicketsAlike (m m' : Map Bytes (UInt32 × Bytes)) : Prop :=
  ∀ ticket, Option.Rel EntryAlike (m ticket) (m' ticket)

theorem TicketsAlike.refl (m : Map Bytes (UInt32 × Bytes)) : TicketsAlike m m := by
  intro ticket
  cases m ticket with
  | none => exact .none
  | some x => exact .some (.refl x)

theorem TicketsAlike.set {m m' : Map Bytes (UInt32 × Bytes)} (h : TicketsAlike m m')
    {x y : UInt32 × Bytes} (hxy : EntryAlike x y) (ticket : Bytes) :
    TicketsAlike (m.set ticket x) (m'.set ticket y) := by
  intro t
  rw [Map.set_apply, Map.set_apply]
  split
  · exact .some hxy
  · exact h t

theorem TicketsAlike.setAll {rows rows' : List (Bytes × (UInt32 × Bytes))}
    (hrows : List.Forall₂ RowAlike rows rows') {m m' : Map Bytes (UInt32 × Bytes)}
    (h : TicketsAlike m m') : TicketsAlike (m.setAll rows) (m'.setAll rows') := by
  induction hrows generalizing m m' with
  | nil => exact h
  | @cons x y rows rows' hrow _ ih =>
    obtain ⟨hticket, hentry⟩ := hrow
    rw [Map.setAll_cons, Map.setAll_cons, hticket]
    exact ih (h.set hentry y.1)

/-! ## The ticket file -/

/-- A ticket file, of whole lines unless it is the same. -/
def FileAlike (csv csv' : Option Bytes) : Prop :=
  csv = csv' ∨ Sessions.Whole csv ∧ Sessions.Whole csv' ∧
    List.Forall₂ RowAlike (Sessions.rows csv) (Sessions.rows csv')

theorem FileAlike.rows {csv csv' : Option Bytes} (h : FileAlike csv csv') :
    List.Forall₂ RowAlike (Sessions.rows csv) (Sessions.rows csv') := by
  rcases h with rfl | ⟨-, -, h⟩
  · exact List.forall₂_same.mpr fun x _ => .refl x
  · exact h

/-- A line whose last field ends in a drawn secret. -/
theorem ticketRow_drawn {f g h : Bytes} (hf : comma ∉ f) (hg : comma ∉ g) (hh : newline ∉ h)
    (a : Vector UInt8 32) :
    ticketRow (f ++ comma :: (g ++ comma :: (h ++ hex a.toList))) =
      (stoul g).toOption.map fun id => (f, (id.toUInt32, h ++ hex a.toList)) := by
  have hnewline : newline ∉ h ++ hex a.toList := by
    intro hmem
    rcases List.mem_append.mp hmem with hmem | hmem
    · exact hh hmem
    · have hrange := (hex_range hmem).1
      exact absurd hrange (by decide)
  have hne : h ++ hex a.toList ≠ [] := by
    intro hnil
    have hlen := congrArg List.length (List.append_eq_nil_iff.mp hnil).2
    rw [length_hex, Vector.length_toList] at hlen
    cases hlen
  unfold ticketRow
  rw [getline_append hf]
  simp only [Option.bind_eq_bind, Option.bind_some]
  rw [getline_append hg]
  simp only [Option.bind_some]
  rw [getline_end hne hnewline]
  simp only [Option.bind_some]
  cases stoul g <;> rfl

/-- The fields of a line that begins with the rest of an older one. -/
theorem exists_fields {p ticket : Bytes} (hp : newline ∉ p) (hticket : newline ∉ ticket)
    (u : UInt32) :
    ∃ f g h, comma ∉ f ∧ comma ∉ g ∧ newline ∉ h ∧
      ∀ secret, p ++ ticketLine ticket secret u = f ++ comma :: (g ++ comma :: (h ++ secret)) := by
  have hdecimal : comma ∉ decimal u.toNat := comma_not_mem_decimal _
  have hpre : newline ∉ p ++ ticket := fun hmem => (List.mem_append.mp hmem).elim hp hticket
  have hend : newline ∉ decimal u.toNat ++ [comma] := by
    intro hmem
    rcases List.mem_append.mp hmem with hmem | hmem
    · exact newline_not_mem_decimal _ hmem
    · exact absurd (List.mem_singleton.mp hmem) (by decide)
  by_cases hx : comma ∈ p ++ ticket
  · obtain ⟨f, r, hsplit, hf⟩ := List.eq_append_cons_of_mem hx
    have hr : newline ∉ r := by
      intro hmem
      apply hpre
      rw [hsplit]
      exact List.mem_append_right _ (List.mem_cons_of_mem _ hmem)
    by_cases hr' : comma ∈ r
    · obtain ⟨g, q, rfl, hg⟩ := List.eq_append_cons_of_mem hr'
      refine ⟨f, g, q ++ comma :: (decimal u.toNat ++ [comma]), hf, hg, fun hmem => ?_,
        fun secret => ?_⟩
      · rcases List.mem_append.mp hmem with hmem | hmem
        · exact hr (List.mem_append_right _ (List.mem_cons_of_mem _ hmem))
        · rcases List.mem_cons.mp hmem with hcomma | hmem
          · exact absurd hcomma (by decide)
          · exact hend hmem
      · rw [ticketLine, ← List.append_assoc, hsplit]
        simp
    · refine ⟨f, r, decimal u.toNat ++ [comma], hf, hr', hend, fun secret => ?_⟩
      rw [ticketLine, ← List.append_assoc, hsplit]
      simp
  · refine ⟨p ++ ticket, decimal u.toNat, [], hx, hdecimal, List.not_mem_nil, fun secret => ?_⟩
    rw [ticketLine, ← List.append_assoc]
    rfl

/-- The rows of a file that one more line is appended to. -/
theorem rows_append_line {w p line : Bytes} (hw : w = [] ∨ w.getLast? = some newline)
    (hp : newline ∉ p) (hline : newline ∉ line) :
    Sessions.rows (some (w ++ p ++ (line ++ [newline]))) =
      Sessions.rows (some w) ++ (ticketRow (p ++ line)).toList := by
  have hfull : newline ∉ p ++ line := fun hmem => (List.mem_append.mp hmem).elim hp hline
  unfold Sessions.rows
  rw [Option.getD_some, Option.getD_some, List.append_assoc, lines_append hw, ← List.append_assoc,
    lines_append_newline hfull, List.filterMap_append, List.filterMap_cons]
  cases ticketRow (p ++ line) <;> rfl

theorem whole_append {text line : Bytes} : Sessions.Whole (some (text ++ (line ++ [newline]))) := by
  right
  rw [Option.getD_some, ← List.append_assoc, List.getLast?_append]
  rfl

/-- The same line with another secret. -/
theorem FileAlike.writeToCsv {s s' : Sessions}
    (h : FileAlike s.ticketValidationCsv s'.ticketValidationCsv) (opens : Bool)
    (ticket : Vector UInt8 16) (a b : Vector UInt8 32) (u : UInt32) :
    FileAlike (s.writeToCsv opens (hex ticket.toList) (hex a.toList) u).ticketValidationCsv
      (s'.writeToCsv opens (hex ticket.toList) (hex b.toList) u).ticketValidationCsv := by
  cases opens with
  | false => exact h
  | true =>
    have hfit : ∀ c : Vector UInt8 32, Fit (hex ticket.toList) (hex c.toList) := fit_hex ticket
    rcases h with heq | ⟨hwhole, hwhole', hrows⟩
    · obtain ⟨w, p, htext, hw, hp⟩ := exists_lines_append (s.ticketValidationCsv.getD [])
      obtain ⟨f, g, r, hf, hg, hr, hline⟩ := exists_fields hp (hfit a).newline_ticket u
      have hcsv : ∀ (m : Sessions) (c : Vector UInt8 32),
          m.ticketValidationCsv = s.ticketValidationCsv →
          (m.writeToCsv true (hex ticket.toList) (hex c.toList) u).ticketValidationCsv =
            some (w ++ p ++ (ticketLine (hex ticket.toList) (hex c.toList) u ++ [newline])) := by
        intro m c hm
        rw [← htext, ← hm]
        rfl
      rw [hcsv s a rfl, hcsv s' b heq.symm]
      refine .inr ⟨whole_append, whole_append, ?_⟩
      rw [rows_append_line hw hp (newline_not_mem_ticketLine (hfit a) u),
        rows_append_line hw hp (newline_not_mem_ticketLine (hfit b) u), hline, hline,
        ticketRow_drawn hf hg hr, ticketRow_drawn hf hg hr]
      refine List.rel_append (List.forall₂_same.mpr fun x _ => .refl x) ?_
      cases (stoul g).toOption with
      | none => exact .nil
      | some id => exact .cons ⟨rfl, rfl, .drawn r a b⟩ .nil
    · obtain ⟨hnew, hnewRows⟩ := Sessions.rows_writeToCsv (hfit a) u hwhole
      obtain ⟨hnew', hnewRows'⟩ := Sessions.rows_writeToCsv (hfit b) u hwhole'
      refine .inr ⟨hnew, hnew', ?_⟩
      rw [hnewRows, hnewRows']
      exact List.rel_append hrows (.cons ⟨rfl, rfl, .drawn [] a b⟩ .nil)

/-! ## The sessions -/

/-- The sessions with other tickets. -/
def Sessions.withTickets (s : Sessions) (tickets : Map Bytes (UInt32 × Bytes))
    (csv : Option Bytes) : Sessions :=
  { s with clientTicketsMap := tickets, ticketValidationCsv := csv }

/-- The sessions are the same, up to the secrets. -/
def SessionsAlike (s s' : Sessions) : Prop :=
  ∃ tickets csv, s' = s.withTickets tickets csv ∧ TicketsAlike s.clientTicketsMap tickets ∧
    FileAlike s.ticketValidationCsv csv

namespace SessionsAlike

variable {s s' : Sessions}

theorem refl (s : Sessions) : SessionsAlike s s :=
  ⟨_, _, rfl, .refl _, .inl rfl⟩

theorem readFromCsv (h : SessionsAlike s s') : SessionsAlike s.readFromCsv s'.readFromCsv := by
  obtain ⟨tickets, csv, rfl, htickets, hcsv⟩ := h
  rw [Sessions.readFromCsv_rows, Sessions.readFromCsv_rows]
  exact ⟨_, _, rfl, .setAll hcsv.rows htickets, hcsv⟩

end SessionsAlike

namespace Sessions

variable (s : Sessions) (tickets : Map Bytes (UInt32 × Bytes)) (csv : Option Bytes)

theorem cancel_withTickets (id : Nat) :
    (s.withTickets tickets csv).cancel id = (s.cancel id).withTickets tickets csv := by
  unfold cancel
  rw [show (s.withTickets tickets csv).waits = s.waits from rfl]
  cases s.waits id with
  | none => rfl
  | some wait =>
    dsimp only
    split <;> rfl

theorem destroyTimer_withTickets (u : UInt32) :
    (s.withTickets tickets csv).destroyTimer u = (s.destroyTimer u).withTickets tickets csv := by
  unfold destroyTimer
  rw [show (s.withTickets tickets csv).requestTimers = s.requestTimers from rfl]
  cases s.requestTimers u with
  | none => rfl
  | some timer => exact s.cancel_withTickets tickets csv timer.id

theorem startTimer_withTickets (u : UInt32) (expiry : Int) :
    (s.withTickets tickets csv).startTimer u expiry =
      (s.startTimer u expiry).withTickets tickets csv := by
  unfold startTimer
  rw [destroyTimer_withTickets]
  rfl

theorem handleVerificationTimeout_withTickets (u : UInt32) :
    (s.withTickets tickets csv).handleVerificationTimeout u =
      (s.handleVerificationTimeout u).withTickets tickets csv := by
  unfold handleVerificationTimeout
  rw [destroyTimer_withTickets]
  dsimp only
  change (if (s.destroyTimer u).voterStatusTable u = some .pending then _ else _) = _
  split <;> rfl

theorem confirm_withTickets (u : UInt32) (timer : Timer) :
    (s.withTickets tickets csv).confirm u timer = (s.confirm u timer).withTickets tickets csv := by
  unfold confirm
  dsimp only
  rw [← cancel_withTickets]
  change Sessions.cancel (if s.voterStatusTable u = some .pending then _ else _) _ = _
  split <;> rfl

end Sessions

namespace SessionsAlike

variable {s s' : Sessions}

theorem handleVerificationTimeout (h : SessionsAlike s s') (u : UInt32) :
    SessionsAlike (s.handleVerificationTimeout u) (s'.handleVerificationTimeout u) := by
  obtain ⟨tickets, csv, rfl, htickets, hcsv⟩ := h
  obtain ⟨hsame, hsameCsv⟩ := s.handleVerificationTimeout_tickets u
  exact ⟨tickets, csv, s.handleVerificationTimeout_withTickets tickets csv u, hsame ▸ htickets,
    hsameCsv ▸ hcsv⟩

theorem confirm (h : SessionsAlike s s') (u : UInt32) (timer : Timer) :
    SessionsAlike (s.confirm u timer) (s'.confirm u timer) := by
  obtain ⟨tickets, csv, rfl, htickets, hcsv⟩ := h
  obtain ⟨hsame, hsameCsv⟩ := s.confirm_tickets u timer
  exact ⟨tickets, csv, s.confirm_withTickets tickets csv u timer, hsame ▸ htickets,
    hsameCsv ▸ hcsv⟩

theorem accept (h : SessionsAlike s s') (u : UInt32) (expiry : Int) (ticket : Vector UInt8 16)
    (a b : Vector UInt8 32) (opens : Bool) :
    SessionsAlike (s.accept u expiry (hex ticket.toList) (hex a.toList) opens)
      (s'.accept u expiry (hex ticket.toList) (hex b.toList) opens) := by
  obtain ⟨-, htickets, hcsv⟩ := s.accept_fields u expiry (hex ticket.toList) (hex a.toList) opens
  obtain ⟨tickets, csv, rfl, htickets', hcsv'⟩ := h
  refine ⟨tickets.set (hex ticket.toList) (u, hex b.toList),
    ((s.withTickets tickets csv).writeToCsv opens (hex ticket.toList) (hex b.toList)
      u).ticketValidationCsv, ?_, ?_, ?_⟩
  · unfold Sessions.accept
    dsimp only
    rw [show ({ s.withTickets tickets csv with voterStatusTable :=
        (s.withTickets tickets csv).voterStatusTable.set u .pending } : Sessions) =
      ({ s with voterStatusTable := s.voterStatusTable.set u .pending } : Sessions).withTickets
        tickets csv from rfl, Sessions.startTimer_withTickets]
    cases opens <;> rfl
  · rw [htickets]
    exact htickets'.set (x := (u, hex a.toList)) (y := (u, hex b.toList))
      ⟨rfl, .drawn [] a b⟩ (hex ticket.toList)
  · rw [hcsv]
    exact hcsv'.writeToCsv opens ticket a b u

end SessionsAlike

/-! ## The service -/

/-- The same event, except for the random bytes a secret is made of. -/
structure Event.Like (e e' : Event) : Prop where
  occurrence : e'.occurrence = e.occurrence
  io : ∃ secretRandom, e.io.secretRandom.isSome = secretRandom.isSome ∧
    e'.io = e.io.withSecret secretRandom

namespace CheckinService

variable {env : Env} {io : Io} {s t : CheckinService} {clientIp : Endpoint}
  {secretRandom : Option (Vector UInt8 32)}

/-- The service with other sessions. -/
def withSessions (s : CheckinService) (sessions : Sessions) : CheckinService :=
  { s with toSessions := sessions }

/-- The states are the same, up to the secrets. -/
def Twin (s t : CheckinService) : Prop :=
  ∃ sessions, t = s.withSessions sessions ∧ SessionsAlike s.toSessions sessions

theorem Twin.voters (h : Twin s t) : s.voterStatusTable = t.voterStatusTable ∧
    s.requestTimers = t.requestTimers ∧ s.waits = t.waits ∧ s.timers = t.timers := by
  obtain ⟨sessions, rfl, tickets, csv, rfl, -, -⟩ := h
  exact ⟨rfl, rfl, rfl, rfl⟩

theorem Twin.sameFor (h : Twin s t) (clientIp : Endpoint) : SameFor env clientIp s t := by
  obtain ⟨sessions, rfl, -⟩ := h
  exact ⟨rfl, rfl, rfl, rfl⟩

variable (env) in
theorem withVerifier_sessions (s : CheckinService) (sessions : Sessions) (clientId : UInt32) :
    (s.withSessions sessions).withVerifier env clientId =
      (s.withVerifier env clientId).withSessions sessions ∧
    (s.withVerifier env clientId).toSessions = s.toSessions := by
  unfold withVerifier ensureVerifier loadClientPublicKey
  rw [show (s.withSessions sessions).clientVerifiers = s.clientVerifiers from rfl,
    show (s.withSessions sessions).pemFiles = s.pemFiles from rfl]
  split
  · exact ⟨rfl, rfl⟩
  · cases fromPemPublic s.pemFiles (keyFileToLoad env.config clientId) with
    | ok key => exact ⟨rfl, rfl⟩
    | error trap => exact ⟨rfl, rfl⟩

theorem Twin.withVerifier (h : Twin s t) (clientId : UInt32) :
    Twin (s.withVerifier env clientId) (t.withVerifier env clientId) := by
  obtain ⟨sessions, rfl, halike⟩ := h
  obtain ⟨hverifier, hsessions⟩ := withVerifier_sessions env s sessions clientId
  exact ⟨sessions, hverifier, hsessions ▸ halike⟩

theorem Twin.startSizeRead (h : Twin s t) (clientIp : Endpoint) :
    Twin (s.startSizeRead clientIp) (t.startSizeRead clientIp) := by
  obtain ⟨sessions, rfl, halike⟩ := h
  exact ⟨sessions, rfl, halike⟩

theorem Twin.acceptVoter (h : Twin s t) (u : UInt32) (ticket : Vector UInt8 16)
    (secret secret' : Vector UInt8 32) :
    Twin (s.acceptVoter env io u ticket secret) (t.acceptVoter env io u ticket secret') := by
  obtain ⟨sessions, rfl, halike⟩ := h
  exact ⟨_, rfl, halike.accept u _ ticket secret secret' io.csvOpens⟩

theorem Twin.checkinEnds {request : CheckinRequest} {s' t' : CheckinService} (h : Twin s t)
    (hends : CheckinEnds env io secretRandom s t clientIp request s' t') : Twin s' t' := by
  cases hends with
  | ignored => exact h
  | foreign => exact h.startSizeRead clientIp
  | denied => exact (h.withVerifier _).startSizeRead clientIp
  | accepted => exact ((h.withVerifier _).acceptVoter _ _ _ _).startSizeRead clientIp

theorem Twin.ticketEnds {request : TicketRequest} {s' t' : CheckinService} (h : Twin s t)
    (hends : TicketEnds env s t request s' t') : Twin s' t' := by
  cases hends with
  | ignored => exact h
  | checked => exact h.withVerifier _
  | @redeemed voterId secret timer timer' hticket htimer htimer' =>
    obtain ⟨-, htimers, -⟩ := h.voters
    obtain rfl : timer = timer' := Option.some.inj ((htimers ▸ htimer).symm.trans htimer')
    obtain ⟨sessions, rfl, halike⟩ := h
    obtain ⟨hverifier, -⟩ := withVerifier_sessions env s sessions request.body.clientId
    refine ⟨_, ?_, halike.confirm voterId timer⟩
    rw [hverifier]
    rfl

/-! ### Messages -/

theorem handleUntrustedClient_alike (hsecrets : io.secretRandom.isSome = secretRandom.isSome)
    (h : Twin s t) (msgString : Bytes) :
    Call.Alike Twin (Action.Like env SecretAlike)
      (s.handleUntrustedClient env io msgString clientIp)
      (t.handleUntrustedClient env (io.withSecret secretRandom) msgString clientIp) := by
  refine .bind_same .same _ fun json => .bind_same .same _ fun request => ?_
  refine (handleCheckinRequest_alike hsecrets (h.sameFor clientIp) ?_).mono fun _ _ => h.checkinEnds
  rw [h.voters.1]

theorem handleTrustedClient_alike (hc : env.toCodec.Lawful) (h : Twin s t) (msgString : Bytes) :
    Call.Alike Twin (Action.Like env SecretAlike)
      (s.handleTrustedClient env io msgString clientIp)
      (t.handleTrustedClient env (io.withSecret secretRandom) msgString clientIp) := by
  have hread : Twin s.readFromCsv t.readFromCsv := by
    obtain ⟨sessions, rfl, halike⟩ := h
    exact ⟨_, rfl, halike.readFromCsv⟩
  have hcurrent : s.readFromCsv.clientId = t.readFromCsv.clientId := by
    obtain ⟨sessions, ht, -⟩ := hread
    rw [ht]
    rfl
  unfold handleTrustedClient
  dsimp only
  cases env.parse msgString with
  | error trap =>
    cases trap with
    | jsonParseError what => exact .pure hread
    | _ => exact .threw .nil
  | ok json =>
    dsimp only
    cases TicketRequest.fromJson env.toCodec json with
    | error trap =>
      dsimp only
      rw [hcurrent]
      split
      · exact rejectWith_alike hread _ _
      · exact .threw .nil
    | ok request =>
      refine (handleTicketRequest_alike hc (fun _ _ => SecretAlike.utf8)
        (hread.sameFor clientIp) ?_ ?_).mono fun _ _ => hread.ticketEnds
      · obtain ⟨sessions, ht, tickets, csv, hs, htickets, -⟩ := hread
        rw [ht, hs]
        exact htickets _
      · intro voterId secret _
        rw [hread.voters.2.1]

theorem dispatch_alike (hc : env.toCodec.Lawful)
    (hsecrets : io.secretRandom.isSome = secretRandom.isSome) (h : Twin s t)
    (msgString : Bytes) :
    Call.Alike Twin (Action.Like env SecretAlike) (s.dispatch env io msgString clientIp)
      (t.dispatch env (io.withSecret secretRandom) msgString clientIp) := by
  have hid (clientId : UInt32) :
      Twin { s with clientId := clientId } { t with clientId := clientId } := by
    obtain ⟨sessions, rfl, halike⟩ := h
    exact ⟨sessions, rfl, halike⟩
  have hsame : t.clientIdMap = s.clientIdMap ∧ t.clients = s.clients ∧ t.clientId = s.clientId := by
    obtain ⟨sessions, rfl, -⟩ := h
    exact ⟨rfl, rfl, rfl⟩
  unfold dispatch
  rw [hsame.1, hsame.2.2]
  cases s.clientIdMap clientIp with
  | none => exact rejectWith_alike h _ _
  | some clientId =>
    dsimp only
    rw [hsame.2.1]
    cases s.clients clientId with
    | none => exact rejectWith_alike (hid clientId) _ _
    | some client =>
      refine .bind_same .same _ fun _ => ?_
      cases client.type with
      | trustedClient => exact handleTrustedClient_alike hc (hid clientId) msgString
      | untrustedClient => exact handleUntrustedClient_alike hsecrets (hid clientId) msgString

/-! ### Handshakes -/

variable (env io secretRandom) in
theorem savePubKey_withSessions (s : CheckinService) (sessions : Sessions) (key : EnvelopeKey)
    (clientId : UInt32) :
    (s.withSessions sessions).savePubKey env (io.withSecret secretRandom) key clientId =
      (s.savePubKey env io key clientId).withSessions sessions ∧
    (s.savePubKey env io key clientId).toSessions = s.toSessions := by
  unfold savePubKey
  change (if io.savesKey then _ else _) = _ ∧ _
  cases io.savesKey with
  | false => exact ⟨rfl, rfl⟩
  | true => exact ⟨rfl, rfl⟩

theorem admitKey_alike (h : Twin s t) (clientId : UInt32) (key : EnvelopeKey) :
    Call.Alike Twin (Action.Like env SecretAlike) (s.admitKey env io clientId key)
      (t.admitKey env (io.withSecret secretRandom) clientId key) := by
  obtain ⟨sessions, rfl, halike⟩ := h
  unfold admitKey
  rw [show (s.withSessions sessions).clientPublicKeys = s.clientPublicKeys from rfl]
  cases s.clientPublicKeys clientId with
  | some old =>
    dsimp only
    split
    · exact .pure ⟨sessions, rfl, halike⟩
    · exact rejectWith_alike ⟨sessions, rfl, halike⟩ _ _
  | none =>
    dsimp only
    obtain ⟨hsave, hsessions⟩ := savePubKey_withSessions env io secretRandom
      { s with clientPublicKeys := s.clientPublicKeys.set clientId key } sessions key clientId
    refine .pure ⟨sessions, ?_, ?_⟩
    · exact congrArg (fun m : CheckinService =>
        { m with clientVerifiers := m.clientVerifiers.emplace clientId key }) hsave
    · change SessionsAlike (savePubKey env io _ key clientId).toSessions sessions
      rw [hsessions]
      exact halike

theorem Twin.classify (h : Twin s t) (clientId : UInt32) :
    Twin (s.classify env clientId) (t.classify env clientId) := by
  obtain ⟨sessions, rfl, halike⟩ := h
  unfold CheckinService.classify
  change Twin _ (if (s.clients clientId).isSome then _ else if _ then _ else _)
  split
  · exact ⟨sessions, rfl, halike⟩
  · split
    · exact ⟨sessions, rfl, halike⟩
    · exact ⟨sessions, rfl, halike⟩

theorem handshakeDone_alike (h : Twin s t) (certificate : Option Certificate) :
    Call.Alike Twin (Action.Like env SecretAlike) (s.handshakeDone env io clientIp certificate)
      (t.handshakeDone env (io.withSecret secretRandom) clientIp certificate) := by
  have hopen : ∀ s t, Twin s t →
      Twin (((s.openStream clientIp).startSizeRead clientIp).doAccept)
        (((t.openStream clientIp).startSizeRead clientIp).doAccept) := by
    rintro s _ ⟨sessions, rfl, halike⟩
    exact ⟨sessions, rfl, halike⟩
  unfold handshakeDone
  cases certificate with
  | none => exact Call.Alike.bind (.pure h) fun _ _ h => .pure (hopen _ _ h)
  | some cert =>
    refine Call.Alike.bind ?_ fun _ _ h => .pure (hopen _ _ h)
    unfold admitCertificate
    refine .bind_same .same _ fun clientId => ?_
    have hid : Twin { s with clientIdMap := s.clientIdMap.set clientIp clientId }
        { t with clientIdMap := t.clientIdMap.set clientIp clientId } := by
      obtain ⟨sessions, rfl, halike⟩ := h
      exact ⟨sessions, rfl, halike⟩
    dsimp only
    cases cert.publicKey with
    | none => exact .pure hid
    | some key => exact (admitKey_alike hid clientId key).bind fun _ _ h => .pure (h.classify _)

/-! ### Steps -/

theorem Twin.expire (h : Twin s t) (id : Nat) (wait : Wait) :
    Twin (s.expire id wait) (t.expire id wait) := by
  obtain ⟨_, rfl, tickets, csv, rfl, htickets, hcsv⟩ := h
  exact ⟨_, rfl, tickets, csv, rfl, htickets, hcsv⟩

theorem Twin.finishWait (h : Twin s t) (id : Nat) : Twin (s.finishWait id) (t.finishWait id) := by
  obtain ⟨_, rfl, tickets, csv, rfl, htickets, hcsv⟩ := h
  exact ⟨_, rfl, tickets, csv, rfl, htickets, hcsv⟩

theorem Twin.timeout (h : Twin s t) (u : UInt32) :
    Twin { s with toSessions := s.toSessions.handleVerificationTimeout u }
      { t with toSessions := t.toSessions.handleVerificationTimeout u } := by
  obtain ⟨sessions, rfl, halike⟩ := h
  exact ⟨_, rfl, halike.handleVerificationTimeout u⟩

/-- The handlers do the same in twins. -/
theorem handle_alike (hc : env.toCodec.Lawful)
    (hsecrets : io.secretRandom.isSome = secretRandom.isSome) (h : Twin s t)
    (occurrence : Occurrence) :
    Option.Rel (Call.Alike Twin (Action.Like env SecretAlike)) (s.handle env io occurrence)
      (t.handle env (io.withSecret secretRandom) occurrence) := by
  have hwaits : t.waits = s.waits := h.voters.2.2.1.symm
  have hsame : t.accepts = s.accepts ∧ t.handshakes = s.handshakes ∧ t.reads = s.reads ∧
      (∀ ip, t.unread ip = s.unread ip) ∧ t.clientId = s.clientId := by
    obtain ⟨sessions, rfl, -⟩ := h
    exact ⟨rfl, rfl, rfl, fun _ => rfl, rfl⟩
  obtain ⟨haccepts, hhandshakes, hreads, hunread, hid⟩ := hsame
  cases occurrence with
  | accepted ip =>
    dsimp only [handle]
    rw [haccepts]
    split
    · exact .none
    · refine .some (.pure ?_)
      obtain ⟨sessions, rfl, halike⟩ := h
      exact ⟨sessions, rfl, halike⟩
  | acceptFailed =>
    dsimp only [handle]
    rw [haccepts]
    split
    · exact .none
    · refine .some (.pure ?_)
      obtain ⟨sessions, rfl, halike⟩ := h
      exact ⟨sessions, rfl, halike⟩
  | acceptedGone =>
    dsimp only [handle]
    rw [haccepts]
    split
    · exact .none
    · exact .some (.threw .nil)
  | handshakeDone ip certificate =>
    dsimp only [handle]
    rw [hhandshakes]
    split
    · refine .some (handshakeDone_alike ?_ certificate)
      obtain ⟨sessions, rfl, halike⟩ := h
      exact ⟨sessions, rfl, halike⟩
    · exact .none
  | handshakeFailed ip message =>
    dsimp only [handle]
    rw [hhandshakes, hid]
    split
    · refine .some (rejectWith_alike ?_ _ _)
      obtain ⟨sessions, rfl, halike⟩ := h
      exact ⟨sessions, rfl, halike⟩
    · exact .none
  | received ip bytes =>
    dsimp only [handle]
    rw [hreads, hunread]
    cases s.reads ip with
    | none => exact .none
    | some read =>
      dsimp only
      split
      · exact .none
      · refine .some (.pure ?_)
        obtain ⟨sessions, rfl, halike⟩ := h
        exact ⟨sessions, rfl, halike⟩
  | lineRead ip =>
    have hfinish : Twin (s.finishRead ip) (t.finishRead ip) := by
      obtain ⟨sessions, rfl, halike⟩ := h
      exact ⟨sessions, rfl, halike⟩
    have hconsume (n : Nat) :
        Twin ((s.finishRead ip).consume ip n) ((t.finishRead ip).consume ip n) := by
      obtain ⟨sessions, rfl, halike⟩ := h
      exact ⟨sessions, rfl, halike⟩
    dsimp only [handle]
    rw [hreads, hunread]
    cases s.reads ip with
    | none => exact .none
    | some read =>
      dsimp only
      split
      · cases read with
        | size =>
          refine .some (.bind_same .same _ fun size => .pure ?_)
          obtain ⟨sessions, rfl, halike⟩ := h
          exact ⟨sessions, rfl, halike⟩
        | payload sizeOfMessage =>
          refine .some ?_
          unfold payloadRead
          split
          · exact dispatch_alike hc hsecrets (hconsume _) _
          · rw [show (t.finishRead ip).clientId = (s.finishRead ip).clientId from hid]
            exact rejectWith_alike hfinish _ _
      · exact .none
  | readFailed ip error =>
    have hfinish : Twin (s.finishRead ip) (t.finishRead ip) := by
      obtain ⟨sessions, rfl, halike⟩ := h
      exact ⟨sessions, rfl, halike⟩
    dsimp only [handle]
    rw [hreads]
    cases s.reads ip with
    | none => exact .none
    | some read =>
      refine .some ?_
      unfold readFailed
      rw [show (t.finishRead ip).clientId = (s.finishRead ip).clientId from hid]
      split
      · exact rejectWith_alike hfinish _ _
      · exact .pure hfinish
  | timerExpired id =>
    dsimp only [handle]
    rw [hwaits, show (io.withSecret secretRandom).steadyNow = io.steadyNow from rfl]
    cases s.waits id with
    | none => exact .none
    | some wait =>
      dsimp only
      split
      · exact .some (.pure (h.expire id wait))
      · exact .none
  | timedOut id =>
    dsimp only [handle]
    rw [hwaits]
    cases s.waits id with
    | none => exact .none
    | some wait =>
      dsimp only
      split
      · exact .some (.pure ((h.finishWait id).timeout wait.voterId))
      · exact .none
  | waitAborted id =>
    dsimp only [handle]
    rw [hwaits]
    cases s.waits id with
    | none => exact .none
    | some wait =>
      dsimp only
      split
      · exact .some (.pure (h.finishWait id))
      · exact .none
  | signed key message => exact .some (.pure h)

theorem charge_alike {acts acts' : List Action} (h : Twin s t)
    (hacts : List.Forall₂ (Action.Like env SecretAlike) acts acts') :
    Twin (s.charge acts) (t.charge acts') := by
  have hfaults : (t.charge acts').faultTracker = (s.charge acts).faultTracker := by
    have hstart : t.faultTracker = s.faultTracker := by
      obtain ⟨sessions, rfl, -⟩ := h
      rfl
    unfold charge
    dsimp only
    rw [hstart]
    generalize s.faultTracker = m
    induction hacts generalizing m with
    | nil => rfl
    | cons hact _ ih =>
      rw [List.foldl_cons, List.foldl_cons]
      cases hact with
      | same a => exact ih _
      | approval => exact ih m
  obtain ⟨sessions, rfl, halike⟩ := h
  refine ⟨sessions, ?_, halike⟩
  unfold charge at hfaults ⊢
  dsimp only at hfaults
  dsimp only [withSessions] at hfaults ⊢
  rw [hfaults]

theorem step_alike {e e' : Event} (hc : env.toCodec.Lawful) (he : e.Like e') (h : Twin s t) :
    Option.Rel (Call.Alike Twin (Action.Like env SecretAlike)) (step env s e) (step env t e') := by
  obtain ⟨hoccurrence, secretRandom, hsecrets, hio⟩ := he
  have hclock : t.steadyNow = s.steadyNow := by
    obtain ⟨sessions, rfl, -⟩ := h
    rfl
  have hnow : Twin { s with steadyNow := e.io.steadyNow }
      { t with steadyNow := e.io.steadyNow } := by
    obtain ⟨sessions, rfl, halike⟩ := h
    exact ⟨sessions, rfl, halike⟩
  unfold step
  rw [hio, hoccurrence, hclock]
  change Option.Rel _ _ (if s.steadyNow ≤ e.io.steadyNow then _ else none)
  split
  · exact handle_alike hc hsecrets hnow e.occurrence
  · exact .none

theorem next_alike {e e' : Event} {s' t' : CheckinService} {acts acts' : List Action}
    (hc : env.toCodec.Lawful) (h : Twin s t) (he : e.Like e') (hs : next env s e = some (s', acts))
    (ht : next env t e' = some (t', acts')) :
    Twin s' t' ∧ List.Forall₂ (Action.Like env SecretAlike) acts acts' := by
  have halike := step_alike hc he h
  unfold next at hs ht
  generalize step env s e = x, step env t e' = y at hs ht halike
  cases halike with
  | none => cases hs
  | some halike =>
    cases halike with
    | threw => cases hs
    | returned hvalue hacts =>
      simp only [Option.some.injEq, Prod.mk.injEq] at hs ht
      obtain ⟨rfl, rfl⟩ := hs
      obtain ⟨rfl, rfl⟩ := ht
      exact ⟨charge_alike hvalue hacts, hacts⟩

theorem crash_alike {e e' : Event} {acts acts' : List Action} (hc : env.toCodec.Lawful)
    (h : Twin s t) (he : e.Like e') (hs : crash env s e = some acts)
    (ht : crash env t e' = some acts') :
    List.Forall₂ (Action.Like env SecretAlike) acts acts' := by
  have halike := step_alike hc he h
  unfold crash at hs ht
  generalize step env s e = x, step env t e' = y at hs ht halike
  cases halike with
  | none => cases hs
  | some halike =>
    cases halike with
    | returned => cases hs
    | threw hacts =>
      rw [← Option.some.inj hs, ← Option.some.inj ht]
      exact hacts

/-- Of twins, one crashes when the other does. -/
theorem crash_of_alike {e e' : Event} (hc : env.toCodec.Lawful) (h : Twin s t)
    (he : e.Like e') :
    ((next env s e).isSome → crash env t e' = none) ∧
      ((next env t e').isSome → crash env s e = none) := by
  have halike := step_alike hc he h
  unfold next crash
  generalize step env s e = x, step env t e' = y at halike
  cases halike with
  | none => exact ⟨fun _ => rfl, fun _ => rfl⟩
  | some halike =>
    cases halike with
    | returned => exact ⟨fun _ => rfl, fun _ => rfl⟩
    | threw =>
      constructor
      · rintro ⟨⟩
      · rintro ⟨⟩

end CheckinService

/-! ## The secrets stay secret -/

/-- What is left of an action when the secret in an approval is not shown. -/
def Action.redacted : Action → Action
  | .ticketAnswer clientIp request response =>
    if response.body.approved then
      .ticketAnswer clientIp request ⟨{ response.body with secret := [] }, []⟩
    else .ticketAnswer clientIp request response
  | action => action

theorem Action.Like.redacted {env : Env} {R : Bytes → Bytes → Prop} {a b : Action}
    (h : a.Like env R b) : a.redacted = b.redacted := by
  cases h with
  | same => rfl
  | approval => rfl

namespace CheckinService

variable {env : Env}

/-- When other secrets are drawn, nothing that is sent changes but the
approvals, and the voters' statuses and timers are the same. -/
theorem secrets_stay_secret (hc : env.toCodec.Lawful) {s₀ : CheckinService}
    {tr tr' : List (Event × List Action)} (h : Lifetime (next env) (crash env) s₀ tr)
    (h' : Lifetime (next env) (crash env) s₀ tr')
    (hsame : List.Forall₂ (fun x y => x.1.Like y.1) tr tr') :
    tr.map (fun x => x.2.map Action.redacted) = tr'.map (fun x => x.2.map Action.redacted) ∧
      ∀ s s', Run (next env) s₀ tr s → Run (next env) s₀ tr' s' →
        s.voterStatusTable = s'.voterStatusTable ∧ s.requestTimers = s'.requestTimers ∧
        s.waits = s'.waits ∧ s.timers = s'.timers := by
  have hstart : Twin s₀ s₀ := ⟨s₀.toSessions, rfl, .refl _⟩
  have hstep : ∀ s t e e' s' t' acts acts', Twin s t → e.Like e' →
      next env s e = some (s', acts) → next env t e' = some (t', acts') →
      Twin s' t' ∧ List.Forall₂ (Action.Like env SecretAlike) acts acts' := by
    intro s t e e' s' t' acts acts' htwin he hs ht
    exact next_alike hc htwin he hs ht
  constructor
  · have houtputs : List.Forall₂ (fun x y => List.Forall₂ (Action.Like env SecretAlike) x.2 y.2)
        tr tr' := by
      refine Lifetime.lockstep hstep ?_ ?_ ?_ hstart h h' hsame
      · intro s t e e' acts acts' htwin he hs ht
        exact crash_alike hc htwin he hs ht
      · intro s t e e' acts acts' s' htwin he hs ht
        rw [(crash_of_alike hc htwin he).1 (by rw [hs, Option.isSome_some])] at ht
        cases ht
      · intro s t e e' acts acts' t' htwin he hs ht
        rw [(crash_of_alike hc htwin he).2 (by rw [ht, Option.isSome_some])] at hs
        cases hs
    rw [← List.forall₂_eq_eq_eq, List.forall₂_map_left_iff, List.forall₂_map_right_iff]
    refine houtputs.imp fun x y hacts => ?_
    rw [← List.forall₂_eq_eq_eq, List.forall₂_map_left_iff, List.forall₂_map_right_iff]
    exact hacts.imp fun a b hab => hab.redacted
  · intro s s' hrun hrun'
    exact (Run.lockstep hstep hstart hrun hrun' hsame).1.voters

section Rehearsal

open Rehearsal

/-- The same events, with another secret. -/
def withOtherSecret (e : Event) : Event :=
  { e with io := e.io.withSecret (some (Vector.replicate 32 9)) }

/-- Another secret is drawn, and another approval is sent. -/
theorem secrets_stay_secret_rehearsal :
    ∃ tr tr', Lifetime (next Rehearsal.env) (crash Rehearsal.env) opening tr ∧
      Lifetime (next Rehearsal.env) (crash Rehearsal.env) opening tr' ∧
      tr.flatMap (·.2) ≠ tr'.flatMap (·.2) ∧
      tr.map (fun x => x.2.map Action.redacted) = tr'.map (fun x => x.2.map Action.redacted) := by
  have hexec : ((exec (next Rehearsal.env) opening checkinRun).any fun r =>
      (exec (next Rehearsal.env) opening (checkinRun.map withOtherSecret)).any fun r' =>
        decide (r.1.flatMap (·.2) ≠ r'.1.flatMap (·.2))) = true := by
    decide +kernel
  cases hfirst : exec (next Rehearsal.env) opening checkinRun with
  | none =>
    rw [hfirst] at hexec
    cases hexec
  | some r =>
    rw [hfirst, Option.any_some] at hexec
    cases hsecond : exec (next Rehearsal.env) opening (checkinRun.map withOtherSecret) with
    | none =>
      rw [hsecond] at hexec
      cases hexec
    | some r' =>
      rw [hsecond, Option.any_some, decide_eq_true_eq] at hexec
      have hdrawn : ∀ e ∈ checkinRun, e.io.secretRandom.isSome = true := by decide +kernel
      have hevents : List.Forall₂ Event.Like (r.1.map (·.1)) (r'.1.map (·.1)) := by
        rw [exec_events hfirst, exec_events hsecond, List.forall₂_map_right_iff]
        exact List.forall₂_same.mpr fun e he => ⟨rfl, some _, hdrawn e he, rfl⟩
      rw [List.forall₂_map_left_iff, List.forall₂_map_right_iff] at hevents
      have hlife : Lifetime (next Rehearsal.env) (crash Rehearsal.env) opening r.1 :=
        .alive (Run.of_exec hfirst)
      have hlife' : Lifetime (next Rehearsal.env) (crash Rehearsal.env) opening r'.1 :=
        .alive (Run.of_exec hsecond)
      exact ⟨r.1, r'.1, hlife, hlife', hexec,
        (secrets_stay_secret Codec.reference_lawful hlife hlife' hevents).1⟩

end Rehearsal

end CheckinService

end Pollbook

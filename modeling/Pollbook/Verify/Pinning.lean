import Pollbook.Rehearsal
import Pollbook.Verify.Isolation
import Pollbook.Verify.KeySteps

/-!
# Trust on first use

The key folder and the handshakes offer keys for clients. The check-in service
binds each client to the first key it is offered, in both of its maps, and to
no other key afterwards (`keys_are_pinned`). A message is dispatched only for a
client that has been bound, so the key file of a single client is never read.
-/

namespace Pollbook

/-! ## Offers -/

/-- The keys the scan of the key folder offers: those of the files before the
first one that is no key. -/
def scanned (clientKeyFilePrefix : Bytes) : List (Bytes × PemFile) → List (UInt32 × EnvelopeKey)
  | [] => []
  | (_, .invalid) :: _ => []
  | (_, .unopenable _) :: _ => []
  | (name, .publicKey key) :: entries =>
    match clientIdOfFile clientKeyFilePrefix name with
    | .ok clientId => (clientId, key) :: scanned clientKeyFilePrefix entries
    | .error _ => []

/-- The keys the handshakes of a trace offer. -/
def shown (tr : List (Event × List Action)) : List (UInt32 × EnvelopeKey) :=
  tr.filterMap fun x => x.1.occurrence.offer

/-- Both maps bind each client to the first key it was offered. -/
structure Keys.Pins (k : Keys) (offers : List (UInt32 × EnvelopeKey)) : Prop where
  clientPublicKeys : k.clientPublicKeys = Map.firstOf offers
  clientVerifiers : k.clientVerifiers = Map.firstOf offers

theorem Keys.pins_onDisk (pemFiles : Map Bytes PemFile) : (Keys.onDisk pemFiles).Pins [] :=
  ⟨rfl, rfl⟩

theorem Keys.Pins.loadClientPublicKeys {clientKeyFilePrefix : Bytes}
    {entries : List (Bytes × PemFile)} {k k' : Keys} {offers : List (UInt32 × EnvelopeKey)}
    (hk : k.Pins offers) (h : k.loadClientPublicKeys clientKeyFilePrefix entries = .ok k') :
    k'.Pins (offers ++ scanned clientKeyFilePrefix entries) := by
  induction entries generalizing k offers with
  | nil =>
    rw [scanned, List.append_nil, ← Except.ok.inj h]
    exact hk
  | cons entry entries ih =>
    obtain ⟨name, file⟩ := entry
    cases file with
    | unopenable permissionDenied => cases h
    | invalid =>
      rw [scanned, List.append_nil, ← Except.ok.inj h]
      exact hk
    | publicKey key =>
      obtain ⟨clientId, hid, h⟩ := bind_eq_ok.mp h
      rw [scanned, hid, List.append_cons]
      refine ih ⟨?_, ?_⟩ h
      · rw [Map.firstOf_concat, ← hk.clientPublicKeys]
      · rw [Map.firstOf_concat, ← hk.clientVerifiers]

theorem Keys.Pins.admitKey {k : Keys} {offers : List (UInt32 × EnvelopeKey)} (hk : k.Pins offers)
    (file : Bytes) (savesKey : Bool) (clientId : UInt32) (key : EnvelopeKey) :
    (k.admitKey file savesKey clientId key).Pins (offers ++ [(clientId, key)]) := by
  obtain ⟨hkeys, hverifiers⟩ := hk
  unfold Keys.admitKey
  cases hold : k.clientPublicKeys clientId with
  | some old =>
    have hfirst : Map.firstOf (offers ++ [(clientId, key)]) = Map.firstOf offers := by
      rw [hkeys] at hold
      rw [Map.firstOf_concat, Map.emplace_of_some hold]
    have hbound : k.clientVerifiers clientId = some old := by rw [hverifiers, ← hkeys, hold]
    dsimp only
    rw [Map.emplace_of_some hbound]
    split
    · exact ⟨hkeys.trans hfirst.symm, hverifiers.trans hfirst.symm⟩
    · exact ⟨hkeys.trans hfirst.symm, hverifiers.trans hfirst.symm⟩
  | none =>
    constructor
    · rw [Map.firstOf_concat, ← hkeys, Map.emplace_of_none hold]
    · rw [Map.firstOf_concat, ← hverifiers]

theorem shown_snoc (tr : List (Event × List Action)) (x : Event × List Action) :
    shown (tr ++ [x]) = shown tr ++ x.1.occurrence.offer.toList := by
  unfold shown
  rw [List.filterMap_append]
  cases h : x.1.occurrence.offer with
  | none => rw [List.filterMap_cons, h, List.filterMap_nil, Option.toList_none]
  | some o => rw [List.filterMap_cons, h, List.filterMap_nil, Option.toList_some]

namespace CheckinService

variable {env : Env} {found : Found} {s₀ s s' : CheckinService} {tr : List (Event × List Action)}
  {acts : List Action}

/-- The keys offered so far, in the folder and by handshakes. -/
def offers (env : Env) (found : Found) (tr : List (Event × List Action)) :
    List (UInt32 × EnvelopeKey) :=
  scanned env.config.clientKeyFilePrefix found.keyFiles ++ shown tr

/-! ## The invariant -/

/-- The keys are pinned, and every known client has one. -/
structure Pinned (offers : List (UInt32 × EnvelopeKey)) (s : CheckinService) : Prop where
  pins : s.toKeys.Pins offers
  known : ∀ id, (s.clients id).isSome = true → (s.clientVerifiers id).isSome = true

/-- A step pins the key it is offered, and loads none. -/
theorem Pinned.step {offers : List (UInt32 × EnvelopeKey)} {e : Event} (h : Pinned offers s)
    (hnext : next env s e = some (s', acts)) :
    Pinned (offers ++ e.occurrence.offer.toList) s' ∧
      (e.occurrence.offer = none → s'.toKeys = s.toKeys) := by
  cases next_keyStep hnext with
  | kept hoffer hkeys hclients =>
    rw [hoffer, Option.toList_none, List.append_nil]
    refine ⟨⟨?_, ?_⟩, fun _ => hkeys⟩
    · rw [hkeys]
      exact h.pins
    · rw [hkeys, hclients]
      exact h.known
  | @shown clientId key hoffer hkeys hclients =>
    have hpins := h.pins.admitKey (keyFileToSave env.config clientId) e.io.savesKey clientId key
    rw [← hkeys] at hpins
    rw [hoffer, Option.toList_some]
    refine ⟨⟨hpins, fun id hid => ?_⟩, nofun⟩
    rw [hpins.clientVerifiers, Map.firstOf_append, ← h.pins.clientVerifiers, Option.isSome_or,
      Bool.or_eq_true]
    rcases (hclients id).mp hid with hid | rfl
    · exact .inl (h.known id hid)
    · exact .inr (by simp [Map.firstOf])
  | @loaded clientId key _ hclient hnone =>
    have hbound := h.known clientId hclient
    rw [hnone] at hbound
    cases hbound

theorem pinned_of_run (hboot : boot env found = .ok s₀) (hrun : Run (next env) s₀ tr s) :
    Pinned (offers env found tr) s := by
  obtain ⟨keys, hload, hstart⟩ := boot_eq_ok.mp hboot
  obtain ⟨table, -, rfl⟩ := start_eq_ok hstart
  apply hrun.history (I := fun tr s => Pinned (offers env found tr) s)
  · have hpins := (Keys.pins_onDisk found.pemFiles).loadClientPublicKeys hload
    rw [List.nil_append] at hpins
    constructor
    · unfold offers shown
      rw [List.filterMap_nil, List.append_nil]
      exact ⟨hpins.clientPublicKeys, hpins.clientVerifiers⟩
    · rintro id ⟨⟩
  · intro tr m e m' acts _ hm hnext
    have hm' := (hm.step hnext).1
    rwa [offers, List.append_assoc, ← shown_snoc tr (e, acts)] at hm'

/-! ## Pinning -/

theorem ensureVerifier_of_bound {clientId : UInt32} {s₁ : CheckinService}
    (h : (s.clientVerifiers clientId).isSome = true) (hkeys : s₁.toKeys = s.toKeys) :
    s₁.ensureVerifier env clientId = some s₁ := by
  unfold ensureVerifier
  rw [hkeys, if_pos h]

/-- **Trust on first use.** -/
theorem keys_are_pinned (hboot : boot env found = .ok s₀) (hrun : Run (next env) s₀ tr s) :
    (∀ id, s.clientPublicKeys id = Map.firstOf (offers env found tr) id ∧
      s.clientVerifiers id = Map.firstOf (offers env found tr) id) ∧
    (∀ pre post, tr = pre ++ post → ∀ id key,
      Map.firstOf (offers env found pre) id = some key →
        s.clientPublicKeys id = some key ∧ s.clientVerifiers id = some key) ∧
    (∀ e s' acts, next env s e = some (s', acts) →
      (∀ id key key', s.clientPublicKeys id = some key → e.occurrence.offer = some (id, key') →
        key' ≠ key → s'.clientPublicKeys = s.clientPublicKeys ∧
          s'.clientVerifiers = s.clientVerifiers) ∧
      (e.occurrence.offer = none → s'.toKeys = s.toKeys)) ∧
    ∀ e acts clientIp id type msgString,
      ((∃ s', next env s e = some (s', acts)) ∨ crash env s e = some acts) →
      .dispatched clientIp id type msgString ∈ acts →
        (∃ key, Map.firstOf (offers env found tr) id = some key ∧
          s.clientVerifiers id = some key) ∧
        ∀ s₁ : CheckinService, s₁.toKeys = s.toKeys → s₁.ensureVerifier env id = some s₁ := by
  have hpinned := pinned_of_run hboot hrun
  obtain ⟨hkeys, hverifiers⟩ := hpinned.pins
  refine ⟨fun id => ⟨congrFun hkeys id, congrFun hverifiers id⟩, ?_, ?_, ?_⟩
  · rintro pre post rfl id key hbound
    have hlater : Map.firstOf (offers env found (pre ++ post)) id = some key := by
      unfold offers shown at hbound ⊢
      rw [List.filterMap_append, ← List.append_assoc]
      exact Map.firstOf_append_of_some hbound _
    exact ⟨(congrFun hkeys id).trans hlater, (congrFun hverifiers id).trans hlater⟩
  · intro e s' acts hnext
    obtain ⟨hpinned', hquiet⟩ := hpinned.step hnext
    refine ⟨fun id key key' hbound hoffer _ => ?_, hquiet⟩
    obtain ⟨hkeys', hverifiers'⟩ := hpinned'.pins
    have hsame : Map.firstOf (offers env found tr ++ [(id, key')]) =
        Map.firstOf (offers env found tr) := by
      rw [hkeys] at hbound
      rw [Map.firstOf_concat, Map.emplace_of_some hbound]
    rw [hoffer, Option.toList_some, hsame] at hkeys' hverifiers'
    exact ⟨hkeys'.trans hkeys.symm, hverifiers'.trans hverifiers.symm⟩
  · intro e acts clientIp id type msgString hstep ha
    have hsome := hpinned.known id (hands_of_event hstep ha).known
    refine ⟨?_, fun s₁ hs₁ => ensureVerifier_of_bound hsome hs₁⟩
    obtain ⟨key, hkey⟩ := Option.isSome_iff_exists.mp hsome
    exact ⟨key, (congrFun hverifiers id).symm.trans hkey, hkey⟩

section Rehearsal

open Rehearsal

/-- The key folder holds the key of the kiosk and a file that is no key. -/
def folderWithKey : Found where
  clientId := 0
  pemFiles := Map.empty.set (bytes "client_public_keys/client_pubkey_1.pem") (.publicKey kioskKey)
  keyFiles := [(bytes "client_pubkey_1.pem", .publicKey kioskKey), (bytes "notes.txt", .invalid)]
  ticketValidationCsv := none
  steadyNow := 0

/-- A certificate with the kiosk's name and another key changes nothing. -/
theorem keys_are_pinned_rehearsal :
    ∃ s₀ tr s, boot Rehearsal.env folderWithKey = .ok s₀ ∧ Run (next Rehearsal.env) s₀ tr s ∧
      tr.map (·.1.occurrence) = [.accepted kioskIp,
        .handshakeDone kioskIp (some (certificate kioskId tabletKey))] ∧
      s.clientPublicKeys kioskId = some kioskKey ∧ s.clientVerifiers kioskId = some kioskKey := by
  have hname : clientIdOfFile Rehearsal.env.config.clientKeyFilePrefix
      (bytes "client_pubkey_1.pem") = .ok kioskId := by decide +kernel
  have hload : (Keys.onDisk folderWithKey.pemFiles).loadClientPublicKeys
      Rehearsal.env.config.clientKeyFilePrefix folderWithKey.keyFiles =
        .ok ((Keys.onDisk folderWithKey.pemFiles).enter kioskId kioskKey) := by
    simp only [folderWithKey, Keys.loadClientPublicKeys, hname, bind, Except.bind]
    rfl
  have hexec : (exec (next Rehearsal.env) (openingWith folderWithKey
      ((Keys.onDisk folderWithKey.pemFiles).enter kioskId kioskKey))
      (connect (instant 1 0) kioskIp (some (certificate kioskId tabletKey)))).any (fun r =>
      decide (r.1.map (·.1.occurrence) = [.accepted kioskIp,
        .handshakeDone kioskIp (some (certificate kioskId tabletKey))])) = true := by
    decide +kernel
  obtain ⟨tr, s, hrun, htr⟩ := Run.exists_of_exec hexec
  refine ⟨_, tr, s, boot_openingWith _ rfl hload, hrun, of_decide_eq_true htr, ?_⟩
  refine (keys_are_pinned (boot_openingWith _ rfl hload) hrun).2.1 [] tr rfl kioskId kioskKey ?_
  simp [offers, shown, folderWithKey, scanned, hname, Map.firstOf]

end Rehearsal

end CheckinService

end Pollbook

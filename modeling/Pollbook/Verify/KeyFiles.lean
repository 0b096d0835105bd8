import Pollbook.Rehearsal
import Pollbook.Verify.Pinning

/-!
# Keys in memory and keys on file

A handshake writes a client's key under one name, the load functions read it
under another, and a restart takes the names of the key folder apart. When the
three agree, and the folder holds nothing that makes the scan stop or miss a
client, the keys in memory are the ones on file and survive every restart
(`key_files_survive`). With a folder whose name does not end in a slash they do
not agree (`unslashed_folder_loses_keys`).
-/

namespace Pollbook

/-! ## Paths -/

theorem normalize_of_not_mem {name : Bytes} (h : slash ∉ name) : normalize name = name := by
  induction name with
  | nil => rfl
  | cons b name ih =>
    cases name with
    | nil => rfl
    | cons c name =>
      have hb : ¬ (b = slash ∧ c = slash) := by
        rintro ⟨rfl, -⟩
        exact h List.mem_cons_self
      rw [normalize, if_neg hb, ih fun hmem => h (List.mem_cons_of_mem _ hmem)]

/-- A name without slashes stays as it is at the end of a path. -/
theorem normalize_append (path : Bytes) {name : Bytes} (h : slash ∉ name) :
    normalize (path ++ name) = normalize path ++ name := by
  induction path with
  | nil => exact normalize_of_not_mem h
  | cons b path ih =>
    cases path with
    | nil =>
      cases name with
      | nil => rfl
      | cons c name =>
        have hc : ¬ (b = slash ∧ c = slash) := by
          rintro ⟨-, rfl⟩
          exact h List.mem_cons_self
        have hfirst : normalize (b :: c :: name) = b :: normalize (c :: name) := by
          rw [normalize, if_neg hc]
        change normalize (b :: c :: name) = b :: c :: name
        rw [hfirst, normalize_of_not_mem h]
    | cons c path =>
      rw [List.cons_append, List.cons_append, normalize, normalize]
      rw [List.cons_append] at ih
      by_cases hbc : b = slash ∧ c = slash
      · rw [if_pos hbc, if_pos hbc, ih]
      · rw [if_neg hbc, if_neg hbc, ih]
        rfl

/-- Two slashes in a path are one. -/
theorem normalize_slash_slash (path name : Bytes) :
    normalize (path ++ slash :: slash :: name) = normalize (path ++ slash :: name) := by
  induction path with
  | nil => rw [List.nil_append, List.nil_append, normalize, if_pos ⟨rfl, rfl⟩]
  | cons b path ih =>
    cases path with
    | nil =>
      rw [List.nil_append, List.nil_append] at ih
      rw [List.singleton_append, List.singleton_append, normalize, ih, normalize]
    | cons c path =>
      rw [List.cons_append, List.cons_append] at ih
      rw [List.cons_append, List.cons_append, List.cons_append, List.cons_append, normalize, ih,
        normalize]

theorem slash_not_mem_decimal (n : Nat) : slash ∉ decimal n := by
  intro hmem
  exact absurd (isdigit_of_mem_decimal hmem) (by decide)

theorem pem_eq : bytes ".pem" = [dot, 112, 101, 109] := by decide

/-- The end of the name of a client's key file. -/
def pemName (clientId : UInt32) : Bytes := decimal clientId.toNat ++ bytes ".pem"

theorem slash_not_mem_pemName (clientId : UInt32) : slash ∉ pemName clientId := by
  intro hmem
  rcases List.mem_append.mp hmem with hmem | hmem
  · exact slash_not_mem_decimal _ hmem
  · rw [pem_eq] at hmem
    exact absurd hmem (by decide)

theorem pemName_injective : Function.Injective pemName := by
  intro id id' h
  have hdecimal := congrArg digitsValue (List.append_cancel_right h)
  rw [digitsValue_decimal, digitsValue_decimal] at hdecimal
  exact UInt32.toNat_inj.mp hdecimal

theorem withoutExtension_pem (name : Bytes) : withoutExtension (name ++ bytes ".pem") = name := by
  unfold withoutExtension
  rw [pem_eq, if_pos (by simp)]
  simp [dot]

theorem eraseFirst_append (part rest : Bytes) : eraseFirst part (part ++ rest) = some rest := by
  cases part with
  | nil =>
    cases rest with
    | nil => rfl
    | cons b rest => rfl
  | cons b part =>
    have hstart : (b :: part).isPrefixOf (b :: part ++ rest) = true :=
      List.isPrefixOf_iff_prefix.mpr (List.prefix_append _ _)
    rw [List.cons_append, eraseFirst, ← List.cons_append, if_pos hstart, List.drop_left]

/-- The scan takes the client out of the name of its key file. -/
theorem clientIdOfFile_pemName (clientKeyFilePrefix : Bytes) (clientId : UInt32) :
    clientIdOfFile clientKeyFilePrefix (clientKeyFilePrefix ++ pemName clientId) =
      .ok clientId := by
  have hstoul : stoul (decimal clientId.toNat) = .ok (UInt64.ofNat clientId.toNat) := by
    have hlt : clientId.toNat < 2 ^ 64 := Nat.lt_of_lt_of_le clientId.toNat_lt (by decide)
    simpa using stoul_decimal hlt [] (by simp)
  unfold clientIdOfFile pemName
  rw [← List.append_assoc, withoutExtension_pem, eraseFirst_append]
  simp [hstoul, bind, Except.bind, pure, Except.pure]

/-! ## Key stores -/

/-- Where a service keeps the key of a client: the file a handshake writes, the
file the load functions read, and the folder the scan lists. -/
structure KeyPaths where
  save : UInt32 → Bytes
  load : UInt32 → Bytes
  folder : Bytes
  clientKeyFilePrefix : Bytes
  load_injective : Function.Injective load

namespace KeyPaths

variable {p : KeyPaths}

/-- What is written is what is read, it is in the folder, and the scan takes it
for no other client's. -/
structure Agree (p : KeyPaths) : Prop where
  save_eq_load : ∀ id, p.save id = p.load id
  listed : ∀ id, ∃ name, name ≠ [] ∧ slash ∉ name ∧ p.load id = normalize (p.folder ++ name) ∧
    ∀ id', clientIdOfFile p.clientKeyFilePrefix name = .ok id' → id' = id

/-- Every file of the folder is a key, and the client the scan takes it for has
the same key in its own file. -/
def Tidy (p : KeyPaths) (pemFiles : Map Bytes PemFile) : Prop :=
  ∀ name file, name ≠ [] → slash ∉ name → pemFiles (normalize (p.folder ++ name)) = some file →
    ∃ key, file = .publicKey key ∧ ∀ id,
      clientIdOfFile p.clientKeyFilePrefix name = .ok id →
        pemFiles (p.load id) = some (.publicKey key)

/-- No key that is stored is overwritten. -/
def Keeps (p : KeyPaths) (pemFiles pemFiles' : Map Bytes PemFile) : Prop :=
  ∀ id key, pemFiles (p.load id) = some (.publicKey key) →
    pemFiles' (p.load id) = some (.publicKey key)

end KeyPaths

namespace Keys

variable {p : KeyPaths} {k k' : Keys}

/-- A client with a verifier has the same key in the other map and on file. -/
def Agrees (p : KeyPaths) (k : Keys) : Prop :=
  ∀ id key, k.clientVerifiers id = some key →
    k.clientPublicKeys id = some key ∧ k.pemFiles (p.load id) = some (.publicKey key)

/-- The keys in memory are exactly those on file. -/
structure Stored (p : KeyPaths) (k : Keys) : Prop where
  maps : k.clientPublicKeys = k.clientVerifiers
  files : ∀ id key, k.clientVerifiers id = some key ↔
    k.pemFiles (p.load id) = some (.publicKey key)
  tidy : p.Tidy k.pemFiles

theorem Stored.agrees (h : k.Stored p) : k.Agrees p := by
  intro id key hkey
  exact ⟨by rw [h.maps, hkey], (h.files id key).mp hkey⟩

/-- Keys that are not forgotten are not overwritten either. -/
theorem Stored.keeps (h : k.Stored p) (h' : k'.Stored p) (hkeeps : k.Keeps k') :
    p.Keeps k.pemFiles k'.pemFiles := by
  intro id key hfile
  exact (h'.files id key).mp (hkeeps id key ((h.files id key).mpr hfile))

/-- Where no key is stored there is no file at all. -/
theorem Stored.no_file (h : k.Stored p) (hagree : p.Agree) {id : UInt32}
    (hnone : k.clientVerifiers id = none) : k.pemFiles (p.load id) = none := by
  cases hfile : k.pemFiles (p.load id) with
  | none => rfl
  | some file =>
    obtain ⟨name, hne, hslash, hname, -⟩ := hagree.listed id
    obtain ⟨key, rfl, -⟩ := h.tidy name file hne hslash (hname ▸ hfile)
    rw [(h.files id key).mpr hfile] at hnone
    cases hnone

/-! ### Handshakes -/

theorem Stored.admitKey (h : k.Stored p) (hagree : p.Agree) (id : UInt32) (key : EnvelopeKey) :
    (k.admitKey (p.save id) true id key).Stored p ∧
      k.Keeps (k.admitKey (p.save id) true id key) := by
  unfold Keys.admitKey
  cases hold : k.clientPublicKeys id with
  | some old =>
    have hbound : k.clientVerifiers id = some old := by rw [← h.maps, hold]
    dsimp only
    rw [Map.emplace_of_some hbound]
    split
    · exact ⟨h, .refl k⟩
    · exact ⟨h, .refl k⟩
  | none =>
    have hnone : k.clientVerifiers id = none := by rw [← h.maps, hold]
    have hno := h.no_file hagree hnone
    dsimp only
    rw [Map.emplace_of_none hnone, hagree.save_eq_load id, if_pos rfl]
    refine ⟨⟨by rw [h.maps], fun id' key' => ?_, ?_⟩, fun id' key' hkey' => ?_⟩
    · dsimp only
      by_cases hid : id' = id
      · rw [hid]
        simp
      · rw [Map.set_of_ne _ hid, Map.set_of_ne _ fun heq => hid (p.load_injective heq)]
        exact h.files id' key'
    · intro name file hne hslash hfile
      dsimp only at hfile ⊢
      by_cases hpath : normalize (p.folder ++ name) = p.load id
      · rw [hpath, Map.set_self] at hfile
        obtain ⟨own, -, hown, heq, hread⟩ := hagree.listed id
        -- the folder has one file of this name, the one just written
        have hname : name = own := by
          rw [heq, normalize_append _ hslash, normalize_append _ hown] at hpath
          exact List.append_cancel_left hpath
        refine ⟨key, (Option.some.inj hfile).symm, fun id' hid' => ?_⟩
        rw [hread id' (hname ▸ hid'), Map.set_self]
      · rw [Map.set_of_ne _ hpath] at hfile
        obtain ⟨key', rfl, hread⟩ := h.tidy name file hne hslash hfile
        refine ⟨key', rfl, fun id' hid' => ?_⟩
        have hstored := hread id' hid'
        rw [Map.set_of_ne, hstored]
        intro heq
        rw [heq, hno] at hstored
        cases hstored
    · have hid : id' ≠ id := by
        rintro rfl
        rw [hnone] at hkey'
        cases hkey'
      exact (Map.set_of_ne _ hid _).trans hkey'

/-! ### The scan -/

theorem loadClientPublicKeys_pemFiles {clientKeyFilePrefix : Bytes}
    {entries : List (Bytes × PemFile)}
    (h : k.loadClientPublicKeys clientKeyFilePrefix entries = .ok k') :
    k'.pemFiles = k.pemFiles := by
  induction entries generalizing k with
  | nil => rw [← Except.ok.inj h]
  | cons entry entries ih =>
    obtain ⟨name, file⟩ := entry
    cases file with
    | invalid => rw [← Except.ok.inj h]
    | unopenable permissionDenied => cases h
    | publicKey key =>
      obtain ⟨clientId, -, h⟩ := bind_eq_ok.mp h
      have hrest := ih h
      exact hrest

/-- A scan that meets only keys offers every one of them. -/
theorem mem_scanned {clientKeyFilePrefix : Bytes} {entries : List (Bytes × PemFile)}
    (h : k.loadClientPublicKeys clientKeyFilePrefix entries = .ok k')
    (hvalid : ∀ entry ∈ entries, ∃ key, entry.2 = .publicKey key) (id : UInt32)
    (key : EnvelopeKey) :
    (id, key) ∈ scanned clientKeyFilePrefix entries ↔
      ∃ name, (name, .publicKey key) ∈ entries ∧
        clientIdOfFile clientKeyFilePrefix name = .ok id := by
  induction entries generalizing k with
  | nil => simp [scanned]
  | cons entry entries ih =>
    obtain ⟨name, file⟩ := entry
    obtain ⟨key₀, rfl⟩ := hvalid (name, file) List.mem_cons_self
    obtain ⟨id₀, hid₀, h⟩ := bind_eq_ok.mp h
    have hrest := ih h fun entry hentry => hvalid entry (List.mem_cons_of_mem _ hentry)
    rw [scanned, hid₀, List.mem_cons, hrest]
    constructor
    · rintro (heq | ⟨name', hmem, hid⟩)
      · obtain ⟨rfl, rfl⟩ := Prod.mk.inj heq
        exact ⟨name, List.mem_cons_self, hid₀⟩
      · exact ⟨name', List.mem_cons_of_mem _ hmem, hid⟩
    · rintro ⟨name', hmem, hid⟩
      rcases List.mem_cons.mp hmem with heq | hmem
      · obtain ⟨rfl, hkey⟩ := Prod.mk.inj heq
        rw [hid₀, Except.ok.injEq] at hid
        exact .inl (by rw [hid, PemFile.publicKey.inj hkey])
      · exact .inr ⟨name', hmem, hid⟩

/-- A scan that succeeds has read the name of every file it met. -/
theorem exists_clientIdOfFile {clientKeyFilePrefix : Bytes} {entries : List (Bytes × PemFile)}
    (h : k.loadClientPublicKeys clientKeyFilePrefix entries = .ok k')
    (hvalid : ∀ entry ∈ entries, ∃ key, entry.2 = .publicKey key) {name : Bytes} {file : PemFile}
    (hmem : (name, file) ∈ entries) : ∃ id, clientIdOfFile clientKeyFilePrefix name = .ok id := by
  induction entries generalizing k with
  | nil => cases hmem
  | cons entry entries ih =>
    obtain ⟨name₀, file₀⟩ := entry
    obtain ⟨key₀, rfl⟩ := hvalid (name₀, file₀) List.mem_cons_self
    obtain ⟨id₀, hid₀, h⟩ := bind_eq_ok.mp h
    rcases List.mem_cons.mp hmem with heq | hmem
    · obtain ⟨rfl, -⟩ := Prod.mk.inj heq
      exact ⟨id₀, hid₀⟩
    · exact ih h (fun entry hentry => hvalid entry (List.mem_cons_of_mem _ hentry)) hmem

/-- A process that scans a tidy folder has its keys in memory. -/
theorem stored_of_scan {pemFiles : Map Bytes PemFile} {entries : List (Bytes × PemFile)}
    (hagree : p.Agree) (htidy : p.Tidy pemFiles) (hlists : Lists pemFiles p.folder entries)
    (h : (Keys.onDisk pemFiles).loadClientPublicKeys p.clientKeyFilePrefix entries = .ok k) :
    k.Stored p ∧ k.pemFiles = pemFiles := by
  have hfiles : k.pemFiles = pemFiles := loadClientPublicKeys_pemFiles h
  have hpins := (Keys.pins_onDisk pemFiles).loadClientPublicKeys h
  rw [List.nil_append] at hpins
  have hvalid : ∀ entry ∈ entries, ∃ key, entry.2 = .publicKey key := by
    rintro ⟨name, file⟩ hmem
    obtain ⟨hne, hslash, hfile⟩ := (hlists.mem_iff name file).mp hmem
    obtain ⟨key, rfl, -⟩ := htidy name file hne hslash hfile
    exact ⟨key, rfl⟩
  have hoffered : ∀ id key, (id, key) ∈ scanned p.clientKeyFilePrefix entries →
      pemFiles (p.load id) = some (.publicKey key) := by
    intro id key hmem
    obtain ⟨name, hentry, hid⟩ := (mem_scanned h hvalid id key).mp hmem
    obtain ⟨hne, hslash, hfile⟩ := (hlists.mem_iff name _).mp hentry
    obtain ⟨key', hkey', hread⟩ := htidy name _ hne hslash hfile
    rw [PemFile.publicKey.inj hkey']
    exact hread id hid
  refine ⟨⟨hpins.clientPublicKeys.trans hpins.clientVerifiers.symm, fun id key => ?_, ?_⟩, hfiles⟩
  · rw [hpins.clientVerifiers, hfiles]
    constructor
    · exact fun hfirst => hoffered id key (Map.mem_of_firstOf hfirst)
    · intro hfile
      obtain ⟨name, hne, hslash, hname, hread⟩ := hagree.listed id
      have hentry := (hlists.mem_iff name _).mpr ⟨hne, hslash, hname ▸ hfile⟩
      obtain ⟨id', hid'⟩ := exists_clientIdOfFile h hvalid hentry
      have hmem := (mem_scanned h hvalid id key).mpr ⟨name, hentry, hread id' hid' ▸ hid'⟩
      obtain ⟨key', hkey'⟩ := Map.exists_firstOf hmem
      have hfile' := hoffered id key' (Map.mem_of_firstOf hkey')
      rw [hfile, Option.some.injEq, PemFile.publicKey.injEq] at hfile'
      rw [hkey', hfile']
  · rw [hfiles]
    exact htidy

/-- A restart brings back the verifiers there were. -/
theorem Stored.restart {entries : List (Bytes × PemFile)} (hk : k.Stored p) (hagree : p.Agree)
    (hlists : Lists k.pemFiles p.folder entries)
    (h : (Keys.onDisk k.pemFiles).loadClientPublicKeys p.clientKeyFilePrefix entries = .ok k') :
    k'.Stored p ∧ k'.clientVerifiers = k.clientVerifiers := by
  obtain ⟨hk', hfiles⟩ := stored_of_scan hagree hk.tidy hlists h
  refine ⟨hk', funext fun id => Option.ext fun key => ?_⟩
  rw [hk'.files, hk.files, hfiles]

end Keys

/-! ## The check-in service -/

namespace CheckinService

variable {env : Env} {found : Found} {s₀ s s' : CheckinService} {acts : List Action}
  {tr : List ((Event ⊕ Reboot) × List Action)}

theorem keyFileToLoad_eq (config : Config) (id : UInt32) :
    keyFileToLoad config id =
      normalize (config.clientKeysFolder ++ slash :: config.clientKeyFilePrefix) ++ pemName id := by
  rw [← normalize_append _ (slash_not_mem_pemName id), List.append_assoc]
  rfl

/-- The names `save_pub_key`, `load_client_public_key` and
`load_client_public_keys` build or take apart. -/
def keyPaths (config : Config) : KeyPaths where
  save := keyFileToSave config
  load := keyFileToLoad config
  folder := keyFolder config.clientKeysFolder
  clientKeyFilePrefix := config.clientKeyFilePrefix
  load_injective := by
    intro id id' h
    rw [keyFileToLoad_eq, keyFileToLoad_eq] at h
    exact pemName_injective (List.append_cancel_left h)

/-- The names agree when the folder ends in a slash and the file names have
none. -/
theorem agree_of_slash {config : Config} (hfolder : config.clientKeysFolder.getLast? = some slash)
    (hfile : slash ∉ config.clientKeyFilePrefix) : (keyPaths config).Agree := by
  obtain ⟨folder, hslashed⟩ := List.getLast?_eq_some_iff.mp hfolder
  constructor
  · intro id
    change normalize _ = normalize _
    rw [hslashed, List.append_assoc, List.append_assoc]
    exact (normalize_slash_slash folder _).symm
  · intro id
    refine ⟨config.clientKeyFilePrefix ++ pemName id, ?_, ?_, ?_, ?_⟩
    · simp [pemName, decimal_ne_nil]
    · intro hmem
      rcases List.mem_append.mp hmem with hmem | hmem
      · exact hfile hmem
      · exact slash_not_mem_pemName id hmem
    · change normalize _ = normalize ((_ ++ [slash]) ++ _)
      rw [List.append_assoc]
      rfl
    · intro id' hid'
      have hread := clientIdOfFile_pemName config.clientKeyFilePrefix id
      exact Except.ok.inj (hid'.symm.trans hread)

/-- File writes succeed, and a restart lists the key folder as it is. -/
def Ordinary (env : Env) (s : CheckinService) : Event ⊕ Reboot → Prop
  | .inl e => e.io.savesKey = true
  | .inr r => Lists s.pemFiles (keyPaths env.config).folder r.keyFiles

/-- The event is no restart, and its write succeeds. -/
def writes : Event ⊕ Reboot → Bool
  | .inl e => e.io.savesKey
  | .inr _ => false

theorem ordinary_of_writes (h : tr.all (fun x => writes x.1) = true) :
    Throughout (life env) (Ordinary env) s₀ tr := by
  rintro pre ev acts post m rfl -
  have hev := List.all_eq_true.mp h (ev, acts) (by simp)
  cases ev with
  | inl e => exact hev
  | inr r => cases hev

theorem boot_toKeys (h : boot env found = .ok s) :
    (Keys.onDisk found.pemFiles).loadClientPublicKeys env.config.clientKeyFilePrefix
      found.keyFiles = .ok s.toKeys := by
  obtain ⟨keys, hload, hstart⟩ := boot_eq_ok.mp h
  obtain ⟨table, -, rfl⟩ := start_eq_ok hstart
  exact hload

/-- What one event does to keys that are stored. -/
theorem stored_step (hagree : (keyPaths env.config).Agree)
    (h : s.toKeys.Stored (keyPaths env.config)) {ev : Event ⊕ Reboot}
    (hordinary : Ordinary env s ev) (hstep : life env s ev = some (s', acts)) :
    s'.toKeys.Stored (keyPaths env.config) ∧ s.toKeys.Keeps s'.toKeys ∧
      ∀ r, ev = .inr r → s'.clientVerifiers = s.clientVerifiers := by
  cases ev with
  | inl e =>
    refine and_assoc.mp ⟨?_, nofun⟩
    cases next_keyStep hstep with
    | kept _ hkeys _ =>
      rw [hkeys]
      exact ⟨h, .refl _⟩
    | @shown clientId key _ hkeys _ =>
      have hadmit := h.admitKey hagree clientId key
      rw [hkeys, hordinary]
      exact hadmit
    | @loaded clientId key _ _ hnone hfile _ _ =>
      have hbound := (h.files clientId key).mpr hfile
      rw [hnone] at hbound
      cases hbound
  | inr r =>
    obtain ⟨hreboot, -⟩ := withRestarts_inr.mp hstep
    have hload := boot_toKeys (reboot_eq_some.mp hreboot)
    obtain ⟨hstored, hsame⟩ := h.restart hagree hordinary hload
    refine ⟨hstored, fun id key hkey => ?_, fun _ _ => hsame⟩
    rw [hsame]
    exact hkey

theorem stored_of_life (hboot : boot env found = .ok s₀)
    (hlists : Lists found.pemFiles (keyPaths env.config).folder found.keyFiles)
    (hagree : (keyPaths env.config).Agree) (htidy : (keyPaths env.config).Tidy found.pemFiles)
    (hrun : Run (life env) s₀ tr s) (hordinary : Throughout (life env) (Ordinary env) s₀ tr) :
    s.toKeys.Stored (keyPaths env.config) := by
  apply hrun.historyUnder (I := fun _ s => s.toKeys.Stored (keyPaths env.config)) hordinary
  · exact (Keys.stored_of_scan hagree htidy hlists (boot_toKeys hboot)).1
  · intro tr m ev m' acts hm hev hstep
    exact (stored_step hagree hm hev hstep).1

end CheckinService

/-! ## The ID service -/

namespace VoterIDService

namespace Process

variable {env : Env} {found : Surroundings} {s₀ s s' : Process} {acts : List Action}
  {tr : List ((Event ⊕ Reboot) × List Action)}

theorem keyFile_eq (config : Config) (id : UInt32) :
    keyFile config id =
      normalize (config.clientKeysFolder ++ config.clientKeyFilePrefix) ++ pemName id := by
  rw [← normalize_append _ (slash_not_mem_pemName id), List.append_assoc]
  rfl

/-- The names `save_pub_key`, `load_client_public_key` and
`load_client_public_keys` build or take apart. -/
def keyPaths (config : Config) : KeyPaths where
  save := keyFile config
  load := keyFile config
  folder := keyFolder config.clientKeysFolder
  clientKeyFilePrefix := config.clientKeyFilePrefix
  load_injective := by
    intro id id' h
    rw [keyFile_eq, keyFile_eq] at h
    exact pemName_injective (List.append_cancel_left h)

@[inherit_doc CheckinService.agree_of_slash]
theorem agree_of_slash {config : Config} (hfolder : config.clientKeysFolder.getLast? = some slash)
    (hfile : slash ∉ config.clientKeyFilePrefix) : (keyPaths config).Agree := by
  obtain ⟨folder, hslashed⟩ := List.getLast?_eq_some_iff.mp hfolder
  refine ⟨fun id => rfl, fun id => ⟨config.clientKeyFilePrefix ++ pemName id, ?_, ?_, ?_, ?_⟩⟩
  · simp [pemName, decimal_ne_nil]
  · intro hmem
    rcases List.mem_append.mp hmem with hmem | hmem
    · exact hfile hmem
    · exact slash_not_mem_pemName id hmem
  · change normalize _ = normalize ((_ ++ [slash]) ++ _)
    rw [hslashed, List.append_assoc, List.append_assoc, List.append_assoc]
    exact (normalize_slash_slash folder _).symm
  · intro id' hid'
    have hread := clientIdOfFile_pemName config.clientKeyFilePrefix id
    exact Except.ok.inj (hid'.symm.trans hread)

@[inherit_doc CheckinService.Ordinary]
def Ordinary (env : Env) (s : Process) : Event ⊕ Reboot → Prop
  | .inl e => e.savesKey = true
  | .inr r => Lists s.pemFiles (keyPaths env.config).folder r.keyFiles

theorem start_toKeys (h : start env found = .ok s) :
    (Keys.onDisk found.pemFiles).loadClientPublicKeys env.config.clientKeyFilePrefix
      found.keyFiles = .ok s.toKeys := by
  obtain ⟨keys, hload, rfl⟩ := start_eq_ok h
  exact hload

@[inherit_doc CheckinService.stored_step]
theorem stored_step (hagree : (keyPaths env.config).Agree)
    (h : s.toKeys.Stored (keyPaths env.config)) {ev : Event ⊕ Reboot}
    (hordinary : Ordinary env s ev) (hstep : life env s ev = some (s', acts)) :
    s'.toKeys.Stored (keyPaths env.config) ∧ s.toKeys.Keeps s'.toKeys ∧
      ∀ r, ev = .inr r → s'.clientVerifiers = s.clientVerifiers := by
  cases ev with
  | inl e =>
    refine and_assoc.mp ⟨?_, nofun⟩
    cases next_keyStep hstep with
    | kept _ hkeys =>
      rw [hkeys]
      exact ⟨h, .refl _⟩
    | @shown clientId key _ hkeys =>
      have hadmit := h.admitKey hagree clientId key
      rw [hkeys, hordinary]
      exact hadmit
    | @loaded clientId key _ hnone hfile _ =>
      have hbound := (h.files clientId key).mpr hfile
      rw [hnone] at hbound
      cases hbound
  | inr r =>
    obtain ⟨hreboot, -⟩ := withRestarts_inr.mp hstep
    have hload := start_toKeys (reboot_eq_some.mp hreboot)
    obtain ⟨hstored, hsame⟩ := h.restart hagree hordinary hload
    refine ⟨hstored, fun id key hkey => ?_, fun _ _ => hsame⟩
    rw [hsame]
    exact hkey

theorem stored_of_life (hstart : start env found = .ok s₀)
    (hlists : Lists found.pemFiles (keyPaths env.config).folder found.keyFiles)
    (hagree : (keyPaths env.config).Agree) (htidy : (keyPaths env.config).Tidy found.pemFiles)
    (hrun : Run (life env) s₀ tr s) (hordinary : Throughout (life env) (Ordinary env) s₀ tr) :
    s.toKeys.Stored (keyPaths env.config) := by
  apply hrun.historyUnder (I := fun _ s => s.toKeys.Stored (keyPaths env.config)) hordinary
  · exact (Keys.stored_of_scan hagree htidy hlists (start_toKeys hstart)).1
  · intro tr m ev m' acts hm hev hstep
    exact (stored_step hagree hm hev hstep).1

end Process

end VoterIDService

/-! ## Both services -/

/-- **Key files.** When the names agree, the folder is tidy at the start, writes
succeed and listings are true, then after any number of restarts a client with
a verifier has the same key in the other map and on file, a restart brings back
the verifiers there were, and no stored key is overwritten. -/
theorem key_files_survive (env : Env) (idEnv : VoterIDService.Env) :
    (∀ (found : CheckinService.Found) (s₀ s : CheckinService)
      (tr : List ((Event ⊕ CheckinService.Reboot) × List Action)),
      let p := CheckinService.keyPaths env.config
      CheckinService.boot env found = .ok s₀ → Lists found.pemFiles p.folder found.keyFiles →
      Run (CheckinService.life env) s₀ tr s →
      Throughout (CheckinService.life env) (CheckinService.Ordinary env) s₀ tr →
      p.Agree → p.Tidy found.pemFiles →
      s.toKeys.Agrees p ∧
      ∀ ev s' acts, CheckinService.Ordinary env s ev →
        CheckinService.life env s ev = some (s', acts) →
        (∀ r, ev = .inr r → s'.clientVerifiers = s.clientVerifiers) ∧
          p.Keeps s.pemFiles s'.pemFiles) ∧
    ∀ (found : VoterIDService.Surroundings) (s₀ s : VoterIDService.Process)
      (tr : List ((VoterIDService.Event ⊕ VoterIDService.Process.Reboot) ×
        List VoterIDService.Action)),
      let p := VoterIDService.Process.keyPaths idEnv.config
      VoterIDService.start idEnv found = .ok s₀ → Lists found.pemFiles p.folder found.keyFiles →
      Run (VoterIDService.Process.life idEnv) s₀ tr s →
      Throughout (VoterIDService.Process.life idEnv) (VoterIDService.Process.Ordinary idEnv) s₀
        tr →
      p.Agree → p.Tidy found.pemFiles →
      s.toKeys.Agrees p ∧
      ∀ ev s' acts, VoterIDService.Process.Ordinary idEnv s ev →
        VoterIDService.Process.life idEnv s ev = some (s', acts) →
        (∀ r, ev = .inr r → s'.clientVerifiers = s.clientVerifiers) ∧
          p.Keeps s.pemFiles s'.pemFiles := by
  constructor
  · intro found s₀ s tr p hboot hlists hrun hordinary hagree htidy
    have hstored := CheckinService.stored_of_life hboot hlists hagree htidy hrun hordinary
    refine ⟨hstored.agrees, fun ev s' acts hev hstep => ?_⟩
    obtain ⟨hstored', hkeeps, hsame⟩ := CheckinService.stored_step hagree hstored hev hstep
    exact ⟨hsame, hstored.keeps hstored' hkeeps⟩
  · intro found s₀ s tr p hstart hlists hrun hordinary hagree htidy
    have hstored := VoterIDService.Process.stored_of_life hstart hlists hagree htidy hrun hordinary
    refine ⟨hstored.agrees, fun ev s' acts hev hstep => ?_⟩
    obtain ⟨hstored', hkeeps, hsame⟩ :=
      VoterIDService.Process.stored_step hagree hstored hev hstep
    exact ⟨hsame, hstored.keeps hstored' hkeeps⟩

section Rehearsal

open Rehearsal

/-- The name of the kiosk's key file. -/
def kioskFile : Bytes := bytes "client_pubkey_1.pem"

/-- The key folder holds the kiosk's key. -/
def keptFolder : CheckinService.Found where
  clientId := 0
  pemFiles := Map.empty.set (bytes "client_public_keys/" ++ kioskFile) (.publicKey kioskKey)
  keyFiles := [(kioskFile, .publicKey kioskKey)]
  ticketValidationCsv := none
  steadyNow := 0

theorem keptFolder_iff {name : Bytes} (hslash : slash ∉ name) (file : PemFile) :
    keptFolder.pemFiles (normalize ((CheckinService.keyPaths env.config).folder ++ name)) =
      some file ↔ name = kioskFile ∧ file = .publicKey kioskKey := by
  have hfolder : normalize (CheckinService.keyPaths env.config).folder =
      bytes "client_public_keys/" := by decide +kernel
  change Map.set Map.empty _ _ _ = some file ↔ _
  rw [normalize_append _ hslash, hfolder, Map.set_apply]
  split
  · next heq =>
    rw [List.append_cancel_left_eq] at heq
    rw [Option.some.injEq, and_iff_right heq]
    exact eq_comm
  · next hne =>
    refine iff_of_false nofun ?_
    rintro ⟨rfl, -⟩
    exact hne rfl

theorem lists_keptFolder :
    Lists keptFolder.pemFiles (CheckinService.keyPaths env.config).folder keptFolder.keyFiles := by
  constructor
  intro name file
  change (name, file) ∈ [(kioskFile, PemFile.publicKey kioskKey)] ↔ _
  rw [List.mem_singleton, Prod.mk.injEq]
  constructor
  · rintro ⟨rfl, rfl⟩
    have hslash : slash ∉ kioskFile := by decide +kernel
    exact ⟨by decide +kernel, hslash, (keptFolder_iff hslash _).mpr ⟨rfl, rfl⟩⟩
  · rintro ⟨-, hslash, hfile⟩
    exact (keptFolder_iff hslash file).mp hfile

theorem clientIdOfFile_kioskFile :
    clientIdOfFile env.config.clientKeyFilePrefix kioskFile = .ok kioskId := by decide +kernel

theorem tidy_keptFolder : (CheckinService.keyPaths env.config).Tidy keptFolder.pemFiles := by
  intro name file _ hslash hfile
  obtain ⟨rfl, rfl⟩ := (keptFolder_iff hslash file).mp hfile
  refine ⟨kioskKey, rfl, fun id hid => ?_⟩
  have hid : clientIdOfFile env.config.clientKeyFilePrefix kioskFile = .ok id := hid
  rw [clientIdOfFile_kioskFile, Except.ok.injEq] at hid
  have hload : (CheckinService.keyPaths env.config).load kioskId =
      bytes "client_public_keys/" ++ kioskFile := by decide +kernel
  rw [← hid, hload]
  exact Map.set_self (Map.empty : Map Bytes PemFile) (bytes "client_public_keys/" ++ kioskFile)
    (.publicKey kioskKey)

theorem agree_env : (CheckinService.keyPaths env.config).Agree :=
  CheckinService.agree_of_slash (by decide +kernel) (by decide +kernel)

/-- The keys of a process that has read the folder. -/
def keptKeys : Keys := (Keys.onDisk keptFolder.pemFiles).enter kioskId kioskKey

theorem load_keptKeys :
    (Keys.onDisk keptFolder.pemFiles).loadClientPublicKeys env.config.clientKeyFilePrefix
      keptFolder.keyFiles = .ok keptKeys := by
  simp only [keptFolder, Keys.loadClientPublicKeys, clientIdOfFile_kioskFile, bind, Except.bind]
  rfl

/-- The kiosk's key is there before and after a restart. -/
theorem key_files_survive_rehearsal :
    ∃ s₀ r s, CheckinService.boot env keptFolder = .ok s₀ ∧
      CheckinService.life env s₀ (.inr r) = some (s, []) ∧
      s₀.clientVerifiers kioskId = some kioskKey ∧ s.clientVerifiers = s₀.clientVerifiers := by
  let s₀ := openingWith keptFolder keptKeys
  let r : CheckinService.Reboot := ⟨0, keptFolder.keyFiles, none, 0⟩
  have hboot : CheckinService.boot env keptFolder = .ok s₀ :=
    boot_openingWith keptFolder rfl load_keptKeys
  have hagain : CheckinService.life env s₀ (.inr r) =
      some (openingWith (r.found s₀) keptKeys, []) :=
    withRestarts_inr.mpr ⟨CheckinService.reboot_eq_some.mpr
      (boot_openingWith (r.found s₀) rfl load_keptKeys), rfl⟩
  refine ⟨s₀, r, _, hboot, hagain, by decide +kernel, ?_⟩
  exact (((key_files_survive env idEnv).1 keptFolder s₀ s₀ [] hboot lists_keptFolder .nil .nil
    agree_env tidy_keptFolder).2 (.inr r) _ [] lists_keptFolder hagain).1 r rfl

/-- The settings, with the slash at the end of the folder's name left out. -/
def unslashed : Env where
  toLibraries := env.toLibraries
  config := { config with clientKeysFolder := bytes "client_public_keys" }

/-- The kiosk's key is written next to the folder and looked for inside it. -/
theorem unslashed_folder_loses_keys :
    ¬ ∀ (env : Env) (found : CheckinService.Found) (s₀ s : CheckinService)
      (tr : List ((Event ⊕ CheckinService.Reboot) × List Action)),
      CheckinService.boot env found = .ok s₀ →
      Lists found.pemFiles (CheckinService.keyPaths env.config).folder found.keyFiles →
      Run (CheckinService.life env) s₀ tr s →
      Throughout (CheckinService.life env) (CheckinService.Ordinary env) s₀ tr →
      s.toKeys.Agrees (CheckinService.keyPaths env.config) := by
  intro hall
  have hboot : CheckinService.boot unslashed emptyFolder =
      .ok (openingWith emptyFolder (Keys.onDisk Map.empty)) :=
    boot_openingWith emptyFolder rfl rfl
  have hlists : Lists emptyFolder.pemFiles (CheckinService.keyPaths unslashed.config).folder
      emptyFolder.keyFiles := by
    constructor
    intro name file
    refine iff_of_false List.not_mem_nil ?_
    rintro ⟨-, -, ⟨⟩⟩
  have hexec : (exec (CheckinService.life unslashed)
      (openingWith emptyFolder (Keys.onDisk Map.empty))
      ((connect (instant 1 0) kioskIp (some (certificate kioskId kioskKey))).map .inl)).any
      (fun r => r.1.all (fun x => CheckinService.writes x.1) &&
        decide (r.2.clientVerifiers kioskId = some kioskKey) &&
        decide (r.2.pemFiles (CheckinService.keyFileToLoad unslashed.config kioskId) = none)) =
      true := by decide +kernel
  obtain ⟨tr, s, hrun, hs⟩ := Run.exists_of_exec hexec
  simp only [Bool.and_eq_true, decide_eq_true_eq] at hs
  obtain ⟨⟨hwrites, hkey⟩, hfile⟩ := hs
  have hagrees := hall unslashed emptyFolder _ s tr hboot hlists hrun
    (CheckinService.ordinary_of_writes hwrites)
  have hstored := (hagrees kioskId kioskKey hkey).2
  rw [show (CheckinService.keyPaths unslashed.config).load kioskId =
    CheckinService.keyFileToLoad unslashed.config kioskId from rfl, hfile] at hstored
  cases hstored

end Rehearsal

end Pollbook

import Dreamscroll.Auth.Access
/-!
# What is behind an access

Along every run in which nobody forges a token, the table of users is what
the log says (`users_logged`), and an accepted token was issued, within its
lifetime, for the row of an account as it was read when someone presented the
account's password (`token_traced`). A password is changed for a caller whose
token was accepted (`change_traced`), and a user created for such an admin or
for one who presented a password on the command line (`creation_traced`).
Nothing the server does makes an admin: an account whose rights are revoked
stays without them, and only a token read before still says otherwise
(`revoked_traced`).
-/

namespace Dreamscroll.Auth

open Journal

variable {crypto : Crypto} {config : JwtConfig}

/-- The system at its first start. -/
abbrev starting (now : ℕ) : Procedure.State Accounts Op Place Answer :=
  Procedure.State.start (Accounts.start now)

instance decidableUnforged (crypto : Crypto) (config : JwtConfig) (x : Accounts) (op : Op) :
    ∀ place, Decidable (Unforged crypto config x op place)
  | .extract (some _) _ => inferInstanceAs (Decidable (_ → _))
  | .extract none _ => isTrue trivial
  | .checkUsername .. | .checkShard .. | .insertUser .. | .findAccount .. | .updatePassword ..
  | .authenticate .. | .createToken .. | .authenticateAdmin .. | .countUsers .. | .findAdmin ..
  | .updateAdmin .. | .tick .. => isTrue trivial

/-! ## A run -/

namespace Sample

/-- The claims of the token below. -/
def claims : JwtUserClaims := ⟨"1", "root", true, 86400, 0, "abcdefgh"⟩

/-- Two passwords, and one token. -/
def crates : Crypto where
  hashPassword _ password :=
    if password = "correct horse" then .ok "$argon2id$1"
    else if password = "battery staple" then .ok "$argon2id$2"
    else .error "password invalid"
  verifyPassword passwordHash presented :=
    if passwordHash = "$argon2id$1" then .ok (decide (presented = "correct horse"))
    else if passwordHash = "$argon2id$2" then .ok (decide (presented = "battery staple"))
    else .error "password hash string invalid"
  encode claims' := if claims' = claims then .ok "e.y.J" else .error (.tokenCreation "key")
  decode leeway now token :=
    if token = "e.y.J" ∧ now ≤ claims.exp + leeway then .ok claims else .error .invalidToken

/-- The crates of the sample are lawful. -/
theorem lawful : crates.Lawful where
  verify _ password passwordHash presented h := by
    simp only [crates] at h ⊢
    split_ifs at h with hone htwo
    · cases h
      simp [hone]
    · cases h
      simp [htwo]
  decode claims' token leeway now claims'' hencode hdecode := by
    simp only [crates] at hencode hdecode
    split_ifs at hencode hdecode with hclaims hlive
    cases hdecode
    exact ⟨hclaims.symm, hclaims ▸ hlive.2⟩

/-- What a statement of the runs below reads: a free shard, where it needs
one. -/
def input (storageShard : String) : Input := ⟨none, "", storageShard⟩

/-- The first user gets a token and creates another user, and a third one on
the command line with its password. A minute later its rights are revoked,
and with the token it still changes its password. -/
def events : List (Procedure.Event Op Input) :=
  [.invoke (.firstUser "root" "correct horse" "correct horse"),
    .advance 0 (input "abcdefgh"), .advance 0 (input ""),
    .invoke (.authenticate "root" "correct horse"), .advance 1 (input ""),
    .advance 1 (input ""),
    .invoke (.authorized (some "e.y.J") (.createUser ⟨"ada", "battery staple", ""⟩)),
    .advance 2 (input ""), .advance 2 (input ""), .advance 2 (input "ijklmnop"),
    .advance 2 (input ""),
    .invoke (.createUser "root" "correct horse" ⟨"eve", "battery staple", ""⟩),
    .advance 3 (input ""), .advance 3 (input ""), .advance 3 (input "qrstuvwx"),
    .advance 3 (input ""),
    .invoke (.tick 60), .advance 4 (input ""),
    .invoke (.setAdmin "root" true), .advance 5 (input ""), .advance 5 (input ""),
    .invoke (.authorized (some "e.y.J") (.changePassword "correct horse" "battery staple")),
    .advance 6 (input ""), .advance 6 (input ""), .advance 6 (input "")]

/-- The first user. -/
def root : UserModel := ⟨1, "root", "REPLACE_ME", "$argon2id$1", true, "abcdefgh"⟩

/-- A user an admin creates with the token. -/
def ada : UserModel := ⟨2, "ada", "", "$argon2id$2", false, "ijklmnop"⟩

/-- A user created on the command line. -/
def eve : UserModel := ⟨3, "eve", "", "$argon2id$2", false, "qrstuvwx"⟩

/-- The admin the token lets in. -/
def user : DreamscrollAuthUser := ⟨1, "root", true, "abcdefgh", .jwt claims⟩

/-- The first user without the flag. -/
def revoked : UserModel := { root with isAdmin := false }

/-- And with another password. -/
def changed : UserModel := { revoked with passwordHash := "$argon2id$2" }

/-- All of the history. -/
def log : List Entry :=
  [.inserted 0 (.firstUser 0) root "correct horse", .issued 0 0 root "correct horse" "e.y.J",
    .accepted 0 "e.y.J" user, .inserted 0 (.admin user) ada "battery staple",
    .inserted 0 (.password root 0 "correct horse") eve "battery staple", .flagged 60 revoked,
    .accepted 60 "e.y.J" user, .changed 60 60 user changed "correct horse" "battery staple"]

/-- The state it ends in. -/
def finished : Procedure.State Accounts Op Place Answer :=
  ((procedure crates .fromSecret).system.run (starting 0) events).get (by decide +kernel)

theorem run_finished :
    (procedure crates .fromSecret).system.run (starting 0) events = some finished :=
  (Option.some_get _).symm

theorem unforged_finished : (procedure crates .fromSecret).system.Along
    (Procedure.At (Unforged crates .fromSecret)) (starting 0) events := by decide +kernel

theorem log_finished : finished.shared.log = log := by decide +kernel

end Sample

/-! ## Runs -/

section Runs

/-- The invariant holds of the empty table. -/
theorem inv_start {now : ℕ} : Inv crypto config (Accounts.start now) where
  justified := justified_nil
  time _ he := absurd he List.not_mem_nil
  table _ := rfl
  nodup := List.nodup_nil
  fresh _ hrow := absurd hrow List.not_mem_nil
  sequence := Nat.zero_le _

/-- **What a statement relies on is what the others leave alone.** -/
theorem rely (hcrypto : crypto.Lawful) : Procedure.Rely (procedure crypto config)
    (Unforged crypto config) (Inv crypto config) (Stands crypto) Extends where
  start x op _ := by cases op <;> trivial
  next _ _ _ _ h hplace hunforged := h.granted_next hcrypto hplace hunforged
  rely _ _ _ _ hextends hstands := hextends.stands hstands

variable {now : ℕ} {es : List (Procedure.Event Op Input)}
variable {s : Procedure.State Accounts Op Place Answer}
variable {before after : List Entry} {user : DreamscrollAuthUser} {row : UserModel}
variable {readAt acceptedAt : ℕ} {token presented password : String}

/-- **Along every run in which nobody forges a token.** -/
theorem run_inv (hcrypto : crypto.Lawful)
    (hrun : (procedure crypto config).system.run (starting now) es = some s)
    (hunforged : (procedure crypto config).system.Along (Procedure.At (Unforged crypto config))
      (starting now) es) : Inv crypto config s.shared :=
  ((rely hcrypto).run (Procedure.inv_start inv_start) hrun hunforged).1

/-- **The table of users is what the log says**, in every run: each row is
the one written last under its id. -/
theorem users_logged (hcrypto : crypto.Lawful)
    (hrun : (procedure crypto config).system.run (starting now) es = some s)
    (hunforged : (procedure crypto config).system.Along (Procedure.At (Unforged crypto config))
      (starting now) es) (id : ℤ) : s.shared.findById id = rowAt id s.shared.log :=
  (run_inv hcrypto hrun hunforged).table id

/-- The log is in the order of time. -/
theorem time_le_of_mem_after {log : List Entry} {e e' : Entry}
    (h : Justified (BehindInTime crypto config) log) (hlog : log = before ++ e :: after)
    (he' : e' ∈ after) : e.time ≤ e'.time := by
  obtain ⟨between, rest, rfl⟩ := List.append_of_mem he'
  have hsplit : log = (before ++ e :: between) ++ e' :: rest := by
    rw [hlog, List.append_assoc, List.cons_append]
  exact (h _ e' rest hsplit).2 e (List.mem_append_right _ List.mem_cons_self)

/-- A reading before an entry stands at every later one. -/
theorem readAt_of_split {log between rest : List Entry} {e : Entry} {P : List Entry → Prop}
    (h : Justified (BehindInTime crypto config) log)
    (hlog : log = before ++ e :: (between ++ rest)) (hreadAt : readAt ≤ e.time)
    (hread : ReadAt Entry.time readAt P before) :
    ReadAt Entry.time readAt P (before ++ e :: between) := by
  refine hread.append fun e' he' => ?_
  rcases List.mem_cons.1 he' with rfl | he'
  · exact hreadAt
  · have hlater := time_le_of_mem_after h hlog (List.mem_append_left _ he')
    exact Nat.le_trans hreadAt hlater

/-- What is behind an accepted token, and behind the token itself. -/
theorem issued_of_accepted {log : List Entry} (h : Justified (BehindInTime crypto config) log)
    (hlog : log = before ++ .accepted acceptedAt token user :: after) :
    ∃ issuedAt readAt row presented, .issued issuedAt readAt row presented token ∈ before ∧
      user = config.tokenUser row issuedAt ∧
      ReadAt Entry.time readAt (Holds row presented) before ∧
      readAt ≤ issuedAt ∧ issuedAt ≤ acceptedAt ∧
      acceptedAt ≤ issuedAt + config.userExpirationSecs + config.leeway := by
  obtain ⟨⟨issuedAt, readAt, row, presented, hissued, huser, hlive⟩, hpast⟩ := h _ _ _ hlog
  obtain ⟨older, between, hbefore⟩ := List.append_of_mem hissued
  have hsplit : log = older ++ .issued issuedAt readAt row presented token ::
      (between ++ .accepted acceptedAt token user :: after) := by
    rw [hlog, hbefore, List.append_assoc, List.cons_append]
  obtain ⟨⟨hreadAt, hread, -⟩, -⟩ := h _ _ _ hsplit
  have hsince : ReadAt Entry.time readAt (Holds row presented) before := by
    rw [hbefore]
    exact readAt_of_split h hsplit hreadAt hread
  exact ⟨issuedAt, readAt, row, presented, hissued, huser, hsince, hreadAt, hpast _ hissued, hlive⟩

/-- **A token is accepted for the account whose password was presented for
it**, with the row as it was read then, and no longer than it lives. -/
theorem token_traced (hcrypto : crypto.Lawful)
    (hrun : (procedure crypto config).system.run (starting now) es = some s)
    (hunforged : (procedure crypto config).system.Along (Procedure.At (Unforged crypto config))
      (starting now) es)
    (hlog : s.shared.log = before ++ .accepted acceptedAt token user :: after) :
    ∃ issuedAt readAt row presented, .issued issuedAt readAt row presented token ∈ before ∧
      user = config.tokenUser row issuedAt ∧
      ReadAt Entry.time readAt (Holds row presented) before ∧
      readAt ≤ issuedAt ∧ issuedAt ≤ acceptedAt ∧
      acceptedAt ≤ issuedAt + config.userExpirationSecs + config.leeway :=
  issued_of_accepted (run_inv hcrypto hrun hunforged).justified hlog

/-- The token the admin signs in with is traced to the row it was issued for. -/
theorem token_traced_root : ∃ issuedAt readAt row presented,
    .issued issuedAt readAt row presented "e.y.J" ∈ Sample.log.take 6 ∧
      Sample.user = JwtConfig.fromSecret.tokenUser row issuedAt ∧
      ReadAt Entry.time readAt (Holds row presented) (Sample.log.take 6) ∧
      readAt ≤ issuedAt ∧ issuedAt ≤ 60 ∧ 60 ≤ issuedAt + 24 * 60 * 60 + 0 := by
  have hlog : Sample.finished.shared.log = Sample.log.take 6 ++
      .accepted 60 "e.y.J" Sample.user :: Sample.log.drop 7 :=
    Sample.log_finished
  exact token_traced Sample.lawful Sample.run_finished Sample.unforged_finished hlog

/-- **This user was let in** with a token, while it lived, that was issued
for the row of the account as it was read when its password was presented. -/
def LetIn (config : JwtConfig) (user : DreamscrollAuthUser) (log : List Entry) : Prop :=
  ∃ acceptedAt token issuedAt readAt row presented, .accepted acceptedAt token user ∈ log ∧
    .issued issuedAt readAt row presented token ∈ log ∧ user = config.tokenUser row issuedAt ∧
    ReadAt Entry.time readAt (Holds row presented) log ∧ readAt ≤ issuedAt ∧
    issuedAt ≤ acceptedAt ∧ acceptedAt ≤ issuedAt + config.userExpirationSecs + config.leeway

/-- Who has been let in holds a live token that was issued. -/
theorem letIn_of_admitted {log : List Entry} (h : Justified (BehindInTime crypto config) log)
    (hadmitted : Admitted user log) : LetIn config user log := by
  obtain ⟨acceptedAt, token, hmem⟩ := hadmitted
  obtain ⟨before, after, hlog⟩ := List.append_of_mem hmem
  obtain ⟨issuedAt, readAt, row, presented, hissued, huser, hread, htimes⟩ :=
    issued_of_accepted h hlog
  have hissued' : .issued issuedAt readAt row presented token ∈ log := by
    rw [hlog]
    exact List.mem_append_left _ hissued
  have hlater : ∀ e ∈ Entry.accepted acceptedAt token user :: after, readAt ≤ e.time := by
    intro e he
    rcases List.mem_cons.1 he with rfl | he
    · exact Nat.le_trans htimes.1 htimes.2.1
    · exact Nat.le_trans (Nat.le_trans htimes.1 htimes.2.1) (time_le_of_mem_after h hlog he)
  have hread' : ReadAt Entry.time readAt (Holds row presented) log := by
    rw [hlog]
    exact hread.append hlater
  exact ⟨acceptedAt, token, issuedAt, readAt, row, presented, hmem, hissued', huser, hread', htimes⟩

/-- **A password is changed by its user**, who had been let in and presented
the password that the account had when it was read; nothing else of the row
is written, and the new password is the only one that verifies it. -/
theorem change_traced (hcrypto : crypto.Lawful)
    (hrun : (procedure crypto config).system.run (starting now) es = some s)
    (hunforged : (procedure crypto config).system.Along (Procedure.At (Unforged crypto config))
      (starting now) es) {changedAt : ℕ}
    (hlog : s.shared.log =
      before ++ .changed changedAt readAt user row presented password :: after) :
    (∃ current, rowAt user.id before = some current ∧
      row = { current with passwordHash := row.passwordHash }) ∧
    (∀ entered, crypto.verifyPassword row.passwordHash entered = .ok true ↔ entered = password) ∧
    readAt ≤ changedAt ∧ ReadAt Entry.time readAt (fun log =>
      LetIn config user log ∧ ∃ read, read.id = user.id ∧ Holds read presented log) before := by
  have h := (run_inv hcrypto hrun hunforged).justified
  obtain ⟨⟨⟨current, hcurrent, hrow⟩, hid, ⟨salt, hsalt⟩, htime, hread⟩, -⟩ := h _ _ _ hlog
  rw [hid] at hcurrent
  refine ⟨⟨current, hcurrent, hrow⟩, fun entered => hcrypto.verify _ _ _ _ hsalt, htime, ?_⟩
  rw [hlog] at h
  refine hread.mono fun older hbegins holder => ?_
  obtain ⟨since, hsince⟩ := hbegins
  have hjustified := h.of_append
  rw [← hsince] at hjustified
  exact ⟨letIn_of_admitted hjustified.of_append holder.1, holder.2⟩

/-- The admin changes the password. -/
theorem change_traced_root :
    (∃ current, rowAt 1 (Sample.log.take 7) = some current ∧
      Sample.changed = { current with passwordHash := "$argon2id$2" }) ∧
    (∀ entered, Sample.crates.verifyPassword "$argon2id$2" entered = .ok true ↔
      entered = "battery staple") ∧
    60 ≤ 60 ∧ ReadAt Entry.time 60 (fun log =>
      LetIn .fromSecret Sample.user log ∧
        ∃ read, read.id = Sample.user.id ∧ Holds read "correct horse" log) (Sample.log.take 7) := by
  have hlog : Sample.finished.shared.log = Sample.log.take 7 ++
      .changed 60 60 Sample.user Sample.changed "correct horse" "battery staple" :: [] :=
    Sample.log_finished
  exact change_traced Sample.lawful Sample.run_finished Sample.unforged_finished hlog

/-- **A user is created once**, as an admin when there was none to count, and
otherwise without rights: for an admin who had been let in, or for one on the
command line who presented the password of a row with the rights. -/
theorem creation_traced (hcrypto : crypto.Lawful)
    (hrun : (procedure crypto config).system.run (starting now) es = some s)
    (hunforged : (procedure crypto config).system.Along (Procedure.At (Unforged crypto config))
      (starting now) es) {insertedAt : ℕ} {creator : Creator}
    (hlog : s.shared.log = before ++ .inserted insertedAt creator row password :: after) :
    rowAt row.id before = none ∧
    (∀ entered, crypto.verifyPassword row.passwordHash entered = .ok true ↔ entered = password) ∧
    ((∃ countedAt, creator = .firstUser countedAt ∧ row.isAdmin = true ∧ countedAt ≤ insertedAt ∧
        ReadAt Entry.time countedAt (fun log => ∀ id, rowAt id log = none) before) ∨
      (∃ user, creator = .admin user ∧ row.isAdmin = false ∧ user.isAdmin = true ∧
        LetIn config user before) ∨
      ∃ admin readAt presented, creator = .password admin readAt presented ∧
        row.isAdmin = false ∧ admin.isAdmin = true ∧ readAt ≤ insertedAt ∧
          ReadAt Entry.time readAt (Holds admin presented) before) := by
  have h := (run_inv hcrypto hrun hunforged).justified
  obtain ⟨⟨hnone, -, hadmin, ⟨salt, hsalt⟩, hcreator⟩, -⟩ := h _ _ _ hlog
  refine ⟨hnone, fun entered => hcrypto.verify _ _ _ _ hsalt, ?_⟩
  cases creator with
  | firstUser countedAt => exact Or.inl ⟨countedAt, rfl, hadmin, hcreator⟩
  | admin user =>
    rw [hlog] at h
    exact Or.inr (Or.inl
      ⟨user, rfl, hadmin, hcreator.1, letIn_of_admitted h.of_append hcreator.2⟩)
  | password admin readAt presented =>
    exact Or.inr (Or.inr ⟨admin, readAt, presented, rfl, hadmin, hcreator⟩)

/-- An account made by the command, for an admin who gave the password. -/
theorem creation_traced_eve : rowAt 3 (Sample.log.take 4) = none ∧
    (∀ entered, Sample.crates.verifyPassword "$argon2id$2" entered = .ok true ↔
      entered = "battery staple") ∧
    ((∃ countedAt, Creator.password Sample.root 0 "correct horse" = .firstUser countedAt ∧
        Sample.eve.isAdmin = true ∧ countedAt ≤ 0 ∧
        ReadAt Entry.time countedAt (fun log => ∀ id, rowAt id log = none) (Sample.log.take 4)) ∨
      (∃ user, Creator.password Sample.root 0 "correct horse" = .admin user ∧
        Sample.eve.isAdmin = false ∧ user.isAdmin = true ∧
        LetIn .fromSecret user (Sample.log.take 4)) ∨
      ∃ admin readAt presented, Creator.password Sample.root 0 "correct horse" =
          .password admin readAt presented ∧
        Sample.eve.isAdmin = false ∧ admin.isAdmin = true ∧ readAt ≤ 0 ∧
          ReadAt Entry.time readAt (Holds admin presented) (Sample.log.take 4)) := by
  have hlog : Sample.finished.shared.log = Sample.log.take 4 ++
      .inserted 0 (.password Sample.root 0 "correct horse") Sample.eve "battery staple" ::
        Sample.log.drop 5 :=
    Sample.log_finished
  exact creation_traced Sample.lawful Sample.run_finished Sample.unforged_finished hlog

/-- An account without the rights of an admin is without them until it is
flagged. -/
theorem not_admin_of_unflagged {older newer : List Entry} {id : ℤ}
    (h : Justified (BehindInTime crypto config) (older ++ newer))
    (hrow : ∃ row, rowAt id older = some row ∧ row.isAdmin = false)
    (hflag : ∀ t row, .flagged t row ∈ newer → row.id = id → row.isAdmin = false) :
    ∃ row, rowAt id (older ++ newer) = some row ∧ row.isAdmin = false := by
  refine Justified.keep
    (I := fun log => ∃ row, rowAt id log = some row ∧ row.isAdmin = false) h hrow ?_
  rintro before e - he ⟨hbehind, -⟩ ⟨row, hrow, hadmin⟩
  have hquiet : e.row? = none →
      ∃ row, rowAt id (before ++ [e]) = some row ∧ row.isAdmin = false := fun hnone =>
    ⟨row, (rowAt_concat_of_none hnone).trans hrow, hadmin⟩
  cases e with
  | inserted now creator new password =>
    have hne : new.id ≠ id := by
      rintro rfl
      rw [hbehind.1] at hrow
      cases hrow
    refine ⟨row, ?_, hadmin⟩
    rw [rowAt_concat new rfl, if_neg hne]
    exact hrow
  | changed now readAt user new presented password =>
    obtain ⟨⟨current, hcurrent, hnew⟩, -⟩ := hbehind
    by_cases hid : new.id = id
    · refine ⟨new, ?_, ?_⟩
      · rw [rowAt_concat new rfl, if_pos hid]
      · rw [hid, hrow] at hcurrent
        obtain rfl : row = current := Option.some.inj hcurrent
        rw [hnew]
        exact hadmin
    · refine ⟨row, ?_, hadmin⟩
      rw [rowAt_concat new rfl, if_neg hid]
      exact hrow
  | flagged now new =>
    by_cases hid : new.id = id
    · refine ⟨new, ?_, hflag now new he hid⟩
      rw [rowAt_concat new rfl, if_pos hid]
    · refine ⟨row, ?_, hadmin⟩
      rw [rowAt_concat new rfl, if_neg hid]
      exact hrow
  | issued now readAt read presented token => exact hquiet rfl
  | accepted now token user => exact hquiet rfl

section Revoked

variable {log : List Entry} {read : UserModel} {revokedAt : ℕ}

/-- **An account stays without the rights it has lost**, whatever is changed
or created since, until it is flagged again. -/
theorem not_admin_of_revoked (h : Justified (BehindInTime crypto config) log)
    (hlog : log = before ++ .flagged revokedAt row :: after) (hrevoked : row.isAdmin = false)
    (hkept : ∀ t row', .flagged t row' ∈ after → row'.id = row.id → row'.isAdmin = false) :
    ∃ row', rowAt row.id log = some row' ∧ row'.isAdmin = false := by
  have hlog' : log = (before ++ [.flagged revokedAt row]) ++ after := by
    rw [hlog, List.append_assoc]
    rfl
  have hrow : rowAt row.id (before ++ [.flagged revokedAt row]) = some row := by
    rw [rowAt_concat row rfl, if_pos rfl]
  rw [hlog'] at h ⊢
  exact not_admin_of_unflagged h ⟨row, hrow, hrevoked⟩ hkept

/-- A row with the rights that was read while they were gone, was read no
later than they went. -/
theorem readAt_le_of_admin (h : Justified (BehindInTime crypto config) log)
    (hlog : log = before ++ .flagged revokedAt row :: after) (hrevoked : row.isAdmin = false)
    (hkept : ∀ t row', .flagged t row' ∈ after → row'.id = row.id → row'.isAdmin = false)
    (hread : ReadAt Entry.time readAt (Holds read presented) log) (hid : read.id = row.id)
    (hadmin : read.isAdmin = true) : readAt ≤ revokedAt := by
  obtain ⟨older, since, holder, ⟨hrow, -⟩, -, hsince⟩ := hread
  rw [hlog] at holder
  rcases List.append_eq_append_iff.1 holder with ⟨late, hlate, hrest⟩ | ⟨late, -, hrest⟩
  · rcases late with - | ⟨e, late⟩
    · rw [List.nil_append] at hrest
      exact hsince (.flagged revokedAt row) (hrest ▸ List.mem_cons_self)
    · -- read after the revocation, the row would be no admin's
      obtain ⟨rfl, hafter⟩ := List.cons.inj hrest
      have hjustified : Justified (BehindInTime crypto config) older := by
        rw [hlog, holder] at h
        exact h.of_append
      obtain ⟨row', hrow', hadmin'⟩ := not_admin_of_revoked hjustified hlate hrevoked
        fun t row' hmem => hkept t row' (hafter ▸ List.mem_append_left _ hmem)
      rw [hid, hrow'] at hrow
      obtain rfl : row' = read := Option.some.inj hrow
      rw [hadmin'] at hadmin
      cases hadmin
  · have hmem : .flagged revokedAt row ∈ since := by
      rw [hrest]
      exact List.mem_append_right _ List.mem_cons_self
    exact hsince _ hmem

end Revoked

/-- **Revoked rights are gone, but for the tokens of before.** Where the
rights of an account have been revoked and not been granted again, its row
has none, whoever changes the password; and a token that still lets its user
in as an admin was issued for a row that was read before the revocation, and
lives. -/
theorem revoked_traced (hcrypto : crypto.Lawful)
    (hrun : (procedure crypto config).system.run (starting now) es = some s)
    (hunforged : (procedure crypto config).system.Along (Procedure.At (Unforged crypto config))
      (starting now) es) {revokedAt : ℕ}
    (hlog : s.shared.log = before ++ .flagged revokedAt row :: after)
    (hrevoked : row.isAdmin = false)
    (hkept : ∀ t row', .flagged t row' ∈ after → row'.id = row.id → row'.isAdmin = false) :
    (∃ row', s.shared.findById row.id = some row' ∧ row'.isAdmin = false) ∧
    ∀ acceptedAt token user, .accepted acceptedAt token user ∈ after → user.id = row.id →
      user.isAdmin = true →
      ∃ issuedAt readAt read presented,
        .issued issuedAt readAt read presented token ∈ s.shared.log ∧
        user = config.tokenUser read issuedAt ∧ readAt ≤ revokedAt ∧
        acceptedAt ≤ issuedAt + config.userExpirationSecs + config.leeway := by
  have h := (run_inv hcrypto hrun hunforged).justified
  refine ⟨?_, fun acceptedAt token user haccepted huser hadmin => ?_⟩
  · rw [users_logged hcrypto hrun hunforged]
    exact not_admin_of_revoked h hlog hrevoked hkept
  · obtain ⟨between, rest, hafter⟩ := List.append_of_mem haccepted
    have hsplit : s.shared.log = (before ++ .flagged revokedAt row :: between) ++
        .accepted acceptedAt token user :: rest := by
      rw [hlog, hafter, List.append_assoc, List.cons_append]
    obtain ⟨issuedAt, readAt, read, presented, hissued, rfl, hread, -, -, hlive⟩ :=
      issued_of_accepted h hsplit
    have hissued' : .issued issuedAt readAt read presented token ∈ s.shared.log := by
      rw [hsplit]
      exact List.mem_append_left _ hissued
    have hjustified : Justified (BehindInTime crypto config)
        (before ++ .flagged revokedAt row :: between) := by
      rw [hsplit] at h
      exact h.of_append
    have hkept' : ∀ t row', .flagged t row' ∈ between → row'.id = row.id →
        row'.isAdmin = false := by
      intro t row' hmem
      refine hkept t row' ?_
      rw [hafter]
      exact List.mem_append_left _ hmem
    exact ⟨issuedAt, readAt, read, presented, hissued', rfl,
      readAt_le_of_admin hjustified rfl hrevoked hkept' hread huser hadmin, hlive⟩

/-- The admin is revoked: no token issued later is an admin's. -/
theorem revoked_traced_root :
    (∃ row', Sample.finished.shared.findById 1 = some row' ∧ row'.isAdmin = false) ∧
    ∀ acceptedAt token user, .accepted acceptedAt token user ∈ Sample.log.drop 6 → user.id = 1 →
      user.isAdmin = true →
      ∃ issuedAt readAt read presented,
        .issued issuedAt readAt read presented token ∈ Sample.finished.shared.log ∧
        user = JwtConfig.fromSecret.tokenUser read issuedAt ∧ readAt ≤ 60 ∧
        acceptedAt ≤ issuedAt + 24 * 60 * 60 + 0 := by
  have hlog : Sample.finished.shared.log = Sample.log.take 5 ++
      .flagged 60 Sample.revoked :: Sample.log.drop 6 :=
    Sample.log_finished
  exact revoked_traced Sample.lawful Sample.run_finished Sample.unforged_finished hlog rfl
    fun t row' hmem => absurd hmem (by simp [Sample.log])

end Runs

end Dreamscroll.Auth

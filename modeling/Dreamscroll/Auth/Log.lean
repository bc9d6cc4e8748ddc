import Dreamscroll.Auth.Account
import Dreamscroll.Common.Journal
/-!
# The log of the accounts

What is behind each entry of the log: the entries before it, the row and the
password of the account as they were when they were read, and the time. The
rows that a justified log tells of are in order (`rowInOrder`): each has the
hash of its account's password.
-/

namespace Dreamscroll.Auth

open Journal

/-- **What the code relies on** of the crates: a hash verifies its own
password and no other, a token is decoded to the claims it was encoded from,
and not after it has expired. -/
structure Crypto.Lawful (crypto : Crypto) : Prop where
  verify : ∀ salt password passwordHash presented,
    crypto.hashPassword salt password = .ok passwordHash →
      (crypto.verifyPassword passwordHash presented = .ok true ↔ presented = password)
  decode : ∀ claims token leeway now claims', crypto.encode claims = .ok token →
    crypto.decode leeway now token = .ok claims' → claims' = claims ∧ now ≤ claims.exp + leeway

/-! ## The log -/

namespace Entry

/-- When it happened. -/
def time : Entry → ℕ
  | inserted now .. | changed now .. | flagged now .. | issued now .. | accepted now .. => now

/-- The row it writes. -/
def row? : Entry → Option (ℤ × UserModel)
  | inserted _ _ row _ | changed _ _ _ row _ _ | flagged _ row => some (row.id, row)
  | _ => none

/-- The password it gives an account. -/
def password? : Entry → Option (ℤ × String)
  | inserted _ _ row password | changed _ _ _ row _ password => some (row.id, password)
  | _ => none

/-- The token it gives out. -/
def token? : Entry → Option String
  | issued _ _ _ _ token => some token
  | _ => none

end Entry

/-- The row as it was last written. -/
def rowAt (id : ℤ) (log : List Entry) : Option UserModel := lastWritten Entry.row? id log

/-- The password it was last given. -/
def passwordAt (id : ℤ) (log : List Entry) : Option String := lastWritten Entry.password? id log

/-- An account has this row and this password. -/
def Holds (row : UserModel) (password : String) (log : List Entry) : Prop :=
  rowAt row.id log = some row ∧ passwordAt row.id log = some password

/-- A token of this user was accepted. -/
def Admitted (user : DreamscrollAuthUser) (log : List Entry) : Prop :=
  ∃ now token, .accepted now token user ∈ log

variable (crypto : Crypto) (config : JwtConfig)

/-- The user that a token is for. -/
def JwtConfig.tokenUser (row : UserModel) (issuedAt : ℕ) : DreamscrollAuthUser where
  id := row.id
  username := row.username
  isAdmin := row.isAdmin
  storageShard := row.storageShard
  method := .jwt (config.claims (.fromDbModel row) issuedAt)

/-- What is behind the creation of a user. -/
def Creator.Justified (now : ℕ) (log : List Entry) : Creator → Prop
  | .firstUser countedAt => countedAt ≤ now ∧
      ReadAt Entry.time countedAt (fun log => ∀ id, rowAt id log = none) log
  | .admin user => user.isAdmin = true ∧ Admitted user log
  | .password row readAt presented => row.isAdmin = true ∧ readAt ≤ now ∧
      ReadAt Entry.time readAt (Holds row presented) log

/-- **What is behind an entry.** -/
def Behind (log : List Entry) : Entry → Prop
  | .inserted now creator row password =>
    rowAt row.id log = none ∧ (0 < row.id ∧ row.id ≤ i32Max) ∧ row.isAdmin = creator.isAdmin ∧
      (∃ salt, crypto.hashPassword salt password = .ok row.passwordHash) ∧
      creator.Justified now log
  | .changed now readAt user row presented password =>
    (∃ current, rowAt row.id log = some current ∧
      row = { current with passwordHash := row.passwordHash }) ∧ row.id = user.id ∧
      (∃ salt, crypto.hashPassword salt password = .ok row.passwordHash) ∧ readAt ≤ now ∧
      ReadAt Entry.time readAt
        (fun log => Admitted user log ∧ ∃ read, read.id = user.id ∧ Holds read presented log) log
  | .flagged _ row => ∃ current, rowAt row.id log = some current ∧
      row = { current with isAdmin := row.isAdmin }
  | .issued now readAt row presented token => readAt ≤ now ∧
      ReadAt Entry.time readAt (Holds row presented) log ∧
      config.createUserToken crypto (.fromDbModel row) now = .ok token
  | .accepted now token user => ∃ issuedAt readAt row presented,
      .issued issuedAt readAt row presented token ∈ log ∧ user = config.tokenUser row issuedAt ∧
        now ≤ issuedAt + config.userExpirationSecs + config.leeway

/-- In the order of time. -/
def BehindInTime (log : List Entry) (entry : Entry) : Prop :=
  Behind crypto config log entry ∧ ∀ earlier ∈ log, earlier.time ≤ entry.time

variable {crypto config} {log older : List Entry} {e : Entry} {id : ℤ} {row : UserModel}

theorem Admitted.append {user : DreamscrollAuthUser} (h : Admitted user log) (newer : List Entry) :
    Admitted user (log ++ newer) := by
  obtain ⟨now, token, hmem⟩ := h
  exact ⟨now, token, List.mem_append_left _ hmem⟩

/-! ## The rows of the log -/

/-- A row in order: it is the one of its account, its id fits the subject of
a token, and its hash is of the account's password. -/
def RowInOrder (crypto : Crypto) (log : List Entry) (id : ℤ) (row : UserModel) : Prop :=
  row.id = id ∧ (0 < id ∧ id ≤ i32Max) ∧ ∃ password salt, passwordAt id log = some password ∧
    crypto.hashPassword salt password = .ok row.passwordHash

theorem rowAt_concat_of_none (h : e.row? = none) : rowAt id (log ++ [e]) = rowAt id log :=
  lastWritten_concat_of_none h

theorem passwordAt_concat_of_none (h : e.password? = none) :
    passwordAt id (log ++ [e]) = passwordAt id log := lastWritten_concat_of_none h

theorem rowAt_concat (row : UserModel) (h : e.row? = some (row.id, row)) :
    rowAt id (log ++ [e]) = if row.id = id then some row else rowAt id log := by
  unfold rowAt
  rw [lastWritten_concat, h]

theorem passwordAt_concat {password : String} (h : e.password? = some (row.id, password)) :
    passwordAt id (log ++ [e]) = if row.id = id then some password else passwordAt id log := by
  unfold passwordAt
  rw [lastWritten_concat, h]

/-- An entry with a password and a hash of it leaves the rows in order. -/
theorem rowInOrder_concat {password salt : String} (hrow : e.row? = some (row.id, row))
    (hpassword : e.password? = some (row.id, password)) (hid : 0 < row.id ∧ row.id ≤ i32Max)
    (hsalt : crypto.hashPassword salt password = .ok row.passwordHash)
    (ih : ∀ id row, rowAt id log = some row → RowInOrder crypto log id row)
    {row' : UserModel} (hrow' : rowAt id (log ++ [e]) = some row') :
    RowInOrder crypto (log ++ [e]) id row' := by
  rw [rowAt_concat row hrow] at hrow'
  by_cases hne : row.id = id
  · rw [if_pos hne] at hrow'
    obtain rfl : row = row' := Option.some.inj hrow'
    refine ⟨hne, hne ▸ hid, password, salt, ?_, hsalt⟩
    rw [passwordAt_concat hpassword, if_pos hne]
  · rw [if_neg hne] at hrow'
    obtain ⟨hid', hrange, kept, salt', hkept, hhash⟩ := ih id row' hrow'
    refine ⟨hid', hrange, kept, salt', ?_, hhash⟩
    rw [passwordAt_concat hpassword, if_neg hne]
    exact hkept

/-- An entry that writes nothing of the accounts leaves them. -/
theorem rowInOrder_concat_of_none (hrow : e.row? = none) (hpassword : e.password? = none)
    (ih : ∀ id row, rowAt id log = some row → RowInOrder crypto log id row)
    (hrow' : rowAt id (log ++ [e]) = some row) : RowInOrder crypto (log ++ [e]) id row := by
  rw [rowAt_concat_of_none hrow] at hrow'
  obtain ⟨hid, hrange, password, salt, hlast, hhash⟩ := ih id row hrow'
  exact ⟨hid, hrange, password, salt, (passwordAt_concat_of_none hpassword).trans hlast, hhash⟩

/-- **The rows of a justified log are in order.** -/
theorem rowInOrder (h : Justified (BehindInTime crypto config) log) :
    ∀ id row, rowAt id log = some row → RowInOrder crypto log id row := by
  have hnil : ∀ id row, rowAt id [] = some row → RowInOrder crypto [] id row :=
    fun _ row hrow => absurd hrow (Option.some_ne_none row).symm
  refine h.keep_nil (I := fun log => ∀ id row, rowAt id log = some row →
    RowInOrder crypto log id row) hnil ?_
  intro before e he ih id row hrow
  obtain ⟨hbehind, -⟩ := he
  cases e with
  | inserted now creator new password =>
    obtain ⟨-, hid, -, ⟨salt, hsalt⟩, -⟩ := hbehind
    exact rowInOrder_concat rfl rfl hid hsalt ih hrow
  | changed now readAt user new presented password =>
    obtain ⟨⟨current, hcurrent, -⟩, -, ⟨salt, hsalt⟩, -⟩ := hbehind
    obtain ⟨-, hid, -⟩ := ih _ _ hcurrent
    exact rowInOrder_concat rfl rfl hid hsalt ih hrow
  | flagged now new =>
    -- the password and its hash stay, and only the flag is another
    obtain ⟨current, hcurrent, hnew⟩ := hbehind
    rw [rowAt_concat new rfl] at hrow
    by_cases hne : new.id = id
    · rw [if_pos hne] at hrow
      obtain rfl : new = row := Option.some.inj hrow
      obtain ⟨-, hrange, password, salt, hlast, hhash⟩ := ih _ _ (hne ▸ hcurrent)
      refine ⟨hne, hrange, password, salt, (passwordAt_concat_of_none rfl).trans hlast, ?_⟩
      rw [hnew]
      exact hhash
    · rw [if_neg hne] at hrow
      obtain ⟨hid', hrange, password, salt, hlast, hhash⟩ := ih id row hrow
      exact ⟨hid', hrange, password, salt, (passwordAt_concat_of_none rfl).trans hlast, hhash⟩
  | issued now readAt read presented token => exact rowInOrder_concat_of_none rfl rfl ih hrow
  | accepted now token user => exact rowInOrder_concat_of_none rfl rfl ih hrow

end Dreamscroll.Auth

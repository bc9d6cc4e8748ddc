import Dreamscroll.Auth.Log
import Mathlib.Data.List.Nodup
/-!
# Who is let in

Every statement of a call keeps the accounts as the log tells
(`Inv.granted_next`): the log stays justified, and the table of users is the
one it tells of. What a call has read and goes on with is left alone by the
other calls (`Extends.stands`).
-/

namespace Dreamscroll.Auth

open Journal

variable {crypto : Crypto} {config : JwtConfig} {x x' : Accounts}

/-! ## The table -/

namespace Accounts

variable {id : ℤ} {row : UserModel} {f : UserModel → UserModel}

/-- A row found by its id is in the table, under that id. -/
theorem findById_eq_some (h : x.findById id = some row) : row ∈ x.users ∧ row.id = id := by
  have hid := List.find?_some h
  exact ⟨List.mem_of_find?_eq_some h, of_decide_eq_true hid⟩

/-- A row found by its username is in the table. -/
theorem findByUsername_mem {username : String} (h : x.findByUsername username = some row) :
    row ∈ x.users := List.mem_of_find?_eq_some h

/-- A row is found by its id where no other has it. -/
theorem findById_of_mem (hnodup : (x.users.map (·.id)).Nodup) (hrow : row ∈ x.users) :
    x.findById row.id = some row := by
  have hsome : (x.findById row.id).isSome = true := by
    rw [findById, List.find?_isSome]
    exact ⟨row, hrow, decide_eq_true rfl⟩
  obtain ⟨found, hfound⟩ := Option.isSome_iff_exists.1 hsome
  obtain ⟨hmem, hid⟩ := findById_eq_some hfound
  have heq : found = row := List.inj_on_of_nodup_map hnodup hmem hrow hid
  rw [hfound, heq]

/-- After an update by id, the row of that id is the updated one and every
other row is what it was. -/
theorem findById_update (hf : ∀ row, (f row).id = row.id) (id' : ℤ) :
    (x.update id f).findById id' =
      if id' = id then (x.findById id).map f else x.findById id' := by
  -- an updated row is found where the row was
  have hid : ∀ row : UserModel, (if row.id = id then f row else row).id = row.id := by
    intro row
    split_ifs
    · exact hf row
    · rfl
  have hfind : (x.update id f).findById id' =
      (x.findById id').map fun row => if row.id = id then f row else row := by
    unfold update findById
    rw [List.find?_map]
    congr 2
    funext row
    rw [Function.comp_apply, hid]
  rw [hfind]
  cases hx : x.findById id' with
  | none =>
    split_ifs with heq
    · rw [← heq, hx]
      rfl
    · rfl
  | some row =>
    obtain ⟨-, hrow⟩ := findById_eq_some hx
    rw [Option.map_some, hrow]
    split_ifs with heq
    · rw [← heq, hx]
      rfl
    · rfl

/-- An update keeps the ids of the table. -/
theorem map_id_update (hf : ∀ row, (f row).id = row.id) :
    (x.update id f).users.map (·.id) = x.users.map (·.id) := by
  unfold update
  rw [List.map_map]
  refine List.map_congr_left fun row _ => ?_
  change (if row.id = id then f row else row).id = row.id
  split_ifs
  · exact hf row
  · rfl

end Accounts

/-! ## The invariant -/

/-- **The accounts are as the log tells.** -/
structure Inv (crypto : Crypto) (config : JwtConfig) (x : Accounts) : Prop where
  justified : Justified (BehindInTime crypto config) x.log
  time : ∀ e ∈ x.log, e.time ≤ x.now
  table : ∀ id, x.findById id = rowAt id x.log
  nodup : (x.users.map (·.id)).Nodup
  fresh : ∀ row ∈ x.users, row.id ≤ x.sequence.last
  sequence : x.sequence.last ≤ Sequence.maxValue

/-- Only entries of now and later are added. -/
def Extends (x x' : Accounts) : Prop :=
  ∃ newer, x'.log = x.log ++ newer ∧ (∀ e ∈ newer, x.now ≤ e.time) ∧ x.now ≤ x'.now

/-- What a call in this place has read, and may rely on. -/
def InFlight (crypto : Crypto) (x : Accounts) : Place → Prop
  | .checkUsername creator _ => creator.Justified x.now x.log
  | .checkShard creator new passwordHash _ | .insertUser creator new passwordHash _ =>
      creator.Justified x.now x.log ∧
        ∃ salt, crypto.hashPassword salt new.password = .ok passwordHash
  | .findAccount user .. => Admitted user x.log
  | .updatePassword user row readAt currentPassword newPassword passwordHash =>
      row.id = user.id ∧ (∃ salt, crypto.hashPassword salt newPassword = .ok passwordHash) ∧
        readAt ≤ x.now ∧ ReadAt Entry.time readAt
          (fun log => Admitted user log ∧ ∃ read, read.id = user.id ∧ Holds read currentPassword log)
          x.log
  | .createToken row readAt presented =>
      readAt ≤ x.now ∧ ReadAt Entry.time readAt (Holds row presented) x.log
  | _ => True

/-- Where a call stands. -/
def Stands (crypto : Crypto) (x : Accounts) (_ : Op) : Place ⊕ Answer → Prop
  | .inl place => InFlight crypto x place
  | .inr _ => True

/-- A state extends itself. -/
theorem extends_refl : Extends x x :=
  ⟨[], (List.append_nil _).symm, fun _ he => absurd he List.not_mem_nil, Nat.le_refl _⟩

/-- A reading stands where only later entries are added. -/
theorem Extends.readAt {t : ℕ} {P : List Entry → Prop} (h : Extends x x') (ht : t ≤ x.now)
    (hread : ReadAt Entry.time t P x.log) : ReadAt Entry.time t P x'.log := by
  obtain ⟨newer, hlog, hnewer, -⟩ := h
  rw [hlog]
  refine hread.append fun e he => ?_
  have hlater := hnewer e he
  omega

/-- Who has been let in stays so as the log grows. -/
theorem Extends.admitted {user : DreamscrollAuthUser} (h : Extends x x')
    (hadmitted : Admitted user x.log) : Admitted user x'.log := by
  obtain ⟨newer, hlog, -⟩ := h
  rw [hlog]
  exact hadmitted.append newer

/-- Time does not go back. -/
theorem Extends.now_le (h : Extends x x') : x.now ≤ x'.now := by
  obtain ⟨newer, -, -, hnow⟩ := h
  exact hnow

/-- What a creator is justified by, stands. -/
theorem Extends.creator {creator : Creator} (h : Extends x x')
    (hcreator : creator.Justified x.now x.log) : creator.Justified x'.now x'.log := by
  have hnow := h.now_le
  cases creator with
  | firstUser countedAt =>
    obtain ⟨hcounted, hread⟩ := hcreator
    exact ⟨Nat.le_trans hcounted hnow, h.readAt hcounted hread⟩
  | admin user => exact ⟨hcreator.1, h.admitted hcreator.2⟩
  | password row readAt presented =>
    obtain ⟨hadmin, hreadAt, hread⟩ := hcreator
    exact ⟨hadmin, Nat.le_trans hreadAt hnow, h.readAt hreadAt hread⟩

/-- **No other call takes away what a call relies on.** -/
theorem Extends.stands (h : Extends x x') {op : Op} {stands : Place ⊕ Answer}
    (hstands : Stands crypto x op stands) : Stands crypto x' op stands := by
  have hnow := h.now_le
  rcases stands with place | answer
  swap
  · trivial
  change InFlight crypto x place at hstands
  change InFlight crypto x' place
  cases place with
  | checkUsername creator new => exact h.creator hstands
  | checkShard creator new passwordHash attempt => exact ⟨h.creator hstands.1, hstands.2⟩
  | insertUser creator new passwordHash storageShard => exact ⟨h.creator hstands.1, hstands.2⟩
  | findAccount user currentPassword newPassword => exact h.admitted hstands
  | updatePassword user row readAt currentPassword newPassword passwordHash =>
    obtain ⟨hid, hsalt, htime, hread⟩ := hstands
    exact ⟨hid, hsalt, Nat.le_trans htime hnow, h.readAt htime hread⟩
  | createToken row readAt presented =>
    obtain ⟨htime, hread⟩ := hstands
    exact ⟨Nat.le_trans htime hnow, h.readAt htime hread⟩
  | extract token action => trivial
  | authenticate username password => trivial
  | authenticateAdmin username password new => trivial
  | countUsers username password₁ password₂ => trivial
  | findAdmin username isAdmin => trivial
  | updateAdmin row isAdmin => trivial
  | tick seconds => trivial

/-! ## One statement -/

/-- **What a statement grants**. -/
def Granted (crypto : Crypto) (config : JwtConfig) (x : Accounts) (op : Op)
    (result : Accounts × (Place ⊕ Answer)) : Prop :=
  Inv crypto config result.1 ∧ Extends x result.1 ∧ Stands crypto result.1 op result.2

section Statements

variable {op : Op} {input : Input} {answer : Answer} {e : Entry}

/-- A statement that writes nothing and leaves its call at a place that is in
order. -/
theorem Inv.granted (h : Inv crypto config x) {stands : Place ⊕ Answer}
    (hstands : Stands crypto x op stands) : Granted crypto config x op (x, stands) :=
  ⟨h, extends_refl, hstands⟩

/-- A statement that only reads. -/
theorem Inv.granted_reads (h : Inv crypto config x) {failure : String → Answer}
    {outcome : Place ⊕ Answer} (houtcome : Stands crypto x op outcome) :
    Granted crypto config x op (reads x input failure outcome) := by
  unfold reads
  cases input.dbError with
  | some error => exact h.granted trivial
  | none => exact h.granted houtcome

/-- A row of the table is the one the log tells of. -/
theorem Inv.rowAt_of_mem (h : Inv crypto config x) {row : UserModel} (hrow : row ∈ x.users) :
    rowAt row.id x.log = some row := by
  rw [← h.table]
  exact Accounts.findById_of_mem h.nodup hrow

/-- Every entry of the log is of now or earlier, and so is what is read. -/
theorem Inv.readAt_now (h : Inv crypto config x) {P : List Entry → Prop} (hP : P x.log) :
    ReadAt Entry.time x.now P x.log := Journal.readAt_now hP h.time

/-- The log with one entry more, of now. -/
theorem Inv.justified_concat (h : Inv crypto config x) (he : Behind crypto config x.log e)
    (htime : e.time = x.now) : Justified (BehindInTime crypto config) (x.log ++ [e]) ∧
      ∀ e' ∈ x.log ++ [e], e'.time ≤ x.now := by
  refine ⟨h.justified.concat ⟨he, fun earlier hearlier => ?_⟩, fun e' he' => ?_⟩
  · rw [htime]
    exact h.time earlier hearlier
  · rcases List.mem_append.1 he' with he' | he'
    · exact h.time e' he'
    · rw [List.mem_singleton.1 he']
      exact Nat.le_of_eq htime

/-- One more log entry, made now. -/
theorem extends_concat (hlog : x'.log = x.log ++ [e]) (htime : e.time = x.now)
    (hnow : x'.now = x.now) : Extends x x' := by
  refine ⟨[e], hlog, fun e' he' => ?_, ?_⟩
  · rw [List.mem_singleton.1 he']
    exact Nat.le_of_eq htime.symm
  · exact Nat.le_of_eq hnow.symm

/-- **An entry that writes no row.** -/
theorem Inv.granted_record (h : Inv crypto config x) (he : Behind crypto config x.log e)
    (htime : e.time = x.now) (hrow : e.row? = none) {stands : Place ⊕ Answer}
    (hstands : Stands crypto (x.record e) op stands) :
    Granted crypto config x op (x.record e, stands) := by
  obtain ⟨hjustified, hnow⟩ := h.justified_concat he htime
  refine ⟨⟨hjustified, hnow, fun id => ?_, h.nodup, h.fresh, h.sequence⟩,
    extends_concat rfl htime rfl, hstands⟩
  exact (h.table id).trans (rowAt_concat_of_none hrow).symm

/-- **An entry with the row it writes.** -/
theorem Inv.granted_write (h : Inv crypto config x) {row : UserModel}
    (he : Behind crypto config x.log e) (htime : e.time = x.now)
    (hrow : e.row? = some (row.id, row)) (hlog : x'.log = x.log ++ [e]) (hnow : x'.now = x.now)
    (htable : ∀ id, x'.findById id = if row.id = id then some row else x.findById id)
    (hnodup : (x'.users.map (·.id)).Nodup) (hfresh : ∀ row ∈ x'.users, row.id ≤ x'.sequence.last)
    (hsequence : x'.sequence.last ≤ Sequence.maxValue) :
    Granted crypto config x op (x', .inr answer) := by
  obtain ⟨hjustified, hpast⟩ := h.justified_concat he htime
  refine ⟨⟨hlog ▸ hjustified, ?_, fun id => ?_, hnodup, hfresh, hsequence⟩,
    extends_concat hlog htime hnow, trivial⟩
  · rw [hlog, hnow]
    exact hpast
  · rw [htable, hlog, rowAt_concat row hrow, h.table]

/-- An update of a row that is there. -/
theorem Inv.granted_update (h : Inv crypto config x) {id : ℤ} {current : UserModel}
    {f : UserModel → UserModel} (hf : ∀ row, (f row).id = row.id)
    (hcurrent : x.findById id = some current) (he : Behind crypto config x.log e)
    (htime : e.time = x.now) (hrow : e.row? = some ((f current).id, f current)) :
    Granted crypto config x op ((x.update id f).record e, .inr answer) := by
  obtain ⟨-, hid⟩ := Accounts.findById_eq_some hcurrent
  refine h.granted_write he htime hrow rfl rfl (fun id' => ?_) ?_ ?_ h.sequence
  · refine (Accounts.findById_update hf id').trans ?_
    rw [hf, hid, hcurrent, Option.map_some]
    split_ifs with h₁ h₂ h₂
    · rfl
    · exact absurd h₁.symm h₂
    · exact absurd h₂.symm h₁
    · rfl
  · exact (Accounts.map_id_update hf).symm ▸ h.nodup
  · intro row hmem
    obtain ⟨row', hrow', rfl⟩ := List.mem_map.1 hmem
    have hfresh := h.fresh row' hrow'
    change (if row'.id = id then f row' else row').id ≤ _
    split_ifs
    · rw [hf]
      exact hfresh
    · exact hfresh

/-- A key that is drawn is above those of the table. -/
theorem Inv.id_lt_of_nextval (h : Inv crypto config x) {sequence : Sequence}
    (hnext : x.sequence.nextval = some sequence) :
    (∀ row ∈ x.users, row.id < sequence.last) ∧ 0 < sequence.last ∧
      sequence.last ≤ Sequence.maxValue := by
  unfold Sequence.nextval at hnext
  split_ifs at hnext with hroom
  obtain rfl : ⟨x.sequence.last + 1⟩ = sequence := Option.some.inj hnext
  refine ⟨fun row hrow => ?_, Nat.succ_pos _, hroom⟩
  have hfresh := h.fresh row hrow
  change row.id < ((x.sequence.last + 1 : ℕ) : ℤ)
  omega

/-- A row that is inserted under a new key. -/
theorem Inv.granted_insert (h : Inv crypto config x) {creator : Creator} {sequence : Sequence}
    {row : UserModel} {password : String} (hnext : x.sequence.nextval = some sequence)
    (hid : row.id = sequence.last) (hadmin : row.isAdmin = creator.isAdmin)
    (hsalt : ∃ salt, crypto.hashPassword salt password = .ok row.passwordHash)
    (hcreator : creator.Justified x.now x.log) :
    Granted crypto config x op
      ({ x with users := x.users ++ [row], sequence }.record
        (.inserted x.now creator row password), .inr answer) := by
  obtain ⟨hlt, hpos, hmax⟩ := h.id_lt_of_nextval hnext
  have hnone : x.findById row.id = none := by
    refine List.find?_eq_none.2 fun other hother heq => ?_
    have hother' := hlt other hother
    have heq' : other.id = row.id := of_decide_eq_true heq
    omega
  have hrange : 0 < row.id ∧ row.id ≤ i32Max := by
    have hi32 : (Sequence.maxValue : ℤ) = i32Max := rfl
    omega
  have he : Behind crypto config x.log (.inserted x.now creator row password) :=
    ⟨(h.table row.id).symm.trans hnone, hrange, hadmin, hsalt, hcreator⟩
  refine h.granted_write he rfl rfl rfl rfl (fun id => ?_) ?_ ?_ hmax
  · have hfind : List.find? (fun other => decide (other.id = id)) (x.users ++ [row]) =
        (x.findById id).or (if row.id = id then some row else none) := by
      rw [List.find?_append, List.find?_singleton]
      simp only [decide_eq_true_eq]
      rfl
    refine hfind.trans ?_
    split_ifs with heq
    · rw [← heq, hnone]
      rfl
    · exact Option.or_none
  · change ((x.users ++ [row]).map (·.id)).Nodup
    rw [List.map_append]
    refine List.nodup_append.2 ⟨h.nodup, List.nodup_singleton _, ?_⟩
    intro id hmem id' hmem' heq
    obtain ⟨other, hother, rfl⟩ := List.mem_map.1 hmem
    have hother' := hlt other hother
    have hid' : id' = row.id := List.mem_singleton.1 hmem'
    omega
  · intro other hother
    change other.id ≤ sequence.last
    rcases List.mem_append.1 hother with hother | hother
    · exact Int.le_of_lt (hlt other hother)
    · rw [List.mem_singleton.1 hother]
      exact Int.le_of_eq hid

/-- **The insert of a user**, for a creator who may. -/
theorem Inv.granted_insertUser (h : Inv crypto config x) {creator : Creator} {new : NewUser}
    {passwordHash storageShard : String} (hcreator : creator.Justified x.now x.log)
    (hsalt : ∃ salt, crypto.hashPassword salt new.password = .ok passwordHash) :
    Granted crypto config x op (insertUser x creator new passwordHash storageShard) := by
  unfold insertUser
  cases hnext : x.sequence.nextval with
  | none => exact h.granted trivial
  | some sequence =>
    obtain ⟨hlt, -, hmax⟩ := h.id_lt_of_nextval hnext
    -- a key that is drawn for nothing leaves the accounts as they are
    have hdrawn : ∀ answer, Granted crypto config x op ({ x with sequence }, .inr answer) :=
      fun answer => ⟨⟨h.justified, h.time, h.table, h.nodup,
        fun row hrow => Int.le_of_lt (hlt row hrow), hmax⟩, extends_refl, trivial⟩
    dsimp only
    split_ifs
    · exact hdrawn _
    · exact hdrawn _
    · exact h.granted_insert hnext rfl rfl hsalt hcreator

/-- Time passes. -/
theorem Inv.granted_tick (h : Inv crypto config x) {seconds : ℕ} :
    Granted crypto config x op ({ x with now := x.now + seconds }, .inr answer) := by
  refine ⟨{ h with time := fun e he => ?_ }, ⟨[], (List.append_nil _).symm, ?_, ?_⟩, trivial⟩
  · have hpast := h.time e he
    change e.time ≤ x.now + seconds
    omega
  · intro e he
    exact absurd he List.not_mem_nil
  · change x.now ≤ x.now + seconds
    omega

/-! ## The places of a call -/

/-- What verifying a found row with a password comes to. -/
theorem authenticated_eq_ok {row? : Option UserModel} {password : String} {row : UserModel}
    (h : authenticated crypto row? password = .ok row) :
    row? = some row ∧ crypto.verifyPassword row.passwordHash password = .ok true := by
  unfold authenticated at h
  cases row? with
  | none => cases h
  | some found =>
    dsimp only at h
    split at h
    · cases h
    · rename_i hverify
      obtain rfl : found = row := Except.ok.inj h
      exact ⟨rfl, hverify⟩
    · cases h

/-- **A password that verifies a row of the table is the account's.** -/
theorem Inv.holds_of_verify (hcrypto : crypto.Lawful) (h : Inv crypto config x) {row : UserModel}
    {presented : String} (hrow : row ∈ x.users)
    (hverify : crypto.verifyPassword row.passwordHash presented = .ok true) :
    Holds row presented x.log := by
  have hat := h.rowAt_of_mem hrow
  obtain ⟨-, -, password, salt, hpassword, hhash⟩ := rowInOrder h.justified _ _ hat
  have heq : presented = password := (hcrypto.verify _ _ _ _ hhash).1 hverify
  exact ⟨hat, heq ▸ hpassword⟩

/-- **A token that is accepted was issued to whom it says.** -/
theorem accepted_of_issued (hcrypto : crypto.Lawful) {row : UserModel} {issuedAt now : ℕ}
    {token : String} {user : DreamscrollAuthUser} (hid : 0 < row.id ∧ row.id ≤ i32Max)
    (hissued : config.createUserToken crypto (.fromDbModel row) issuedAt = .ok token)
    (h : config.fromRequestParts crypto now (some token) = .ok user) :
    user = config.tokenUser row issuedAt ∧
      now ≤ issuedAt + config.userExpirationSecs + config.leeway := by
  change (config.decodeUserToken crypto now token >>= DreamscrollAuthUser.tryFrom) = _ at h
  cases hdecode : config.decodeUserToken crypto now token with
  | error error =>
    rw [hdecode] at h
    cases h
  | ok claims =>
    rw [hdecode] at h
    change DreamscrollAuthUser.tryFrom claims = .ok user at h
    obtain ⟨rfl, hexp⟩ := hcrypto.decode _ _ _ _ _ hissued hdecode
    refine ⟨?_, hexp⟩
    have hparse : parseI32 (toString row.id).toList = .ok row.id := by
      have hmin : i32Min ≤ row.id := by
        have hneg : i32Min = -2147483648 := rfl
        omega
      exact parseI32_toString_int hmin hid.2
    unfold DreamscrollAuthUser.tryFrom at h
    have hsub : (config.claims (.fromDbModel row) issuedAt).sub = toString row.id := rfl
    rw [hsub, hparse] at h
    exact (Except.ok.inj h).symm

/-- **Nobody forges a token**: one that is decoded is one of the log. -/
def Unforged (crypto : Crypto) (config : JwtConfig) (x : Accounts) (_ : Op) : Place → Prop
  | .extract (some token) _ => (config.decodeUserToken crypto x.now token).toOption.isSome = true →
      token ∈ x.log.filterMap Entry.token?
  | _ => True

/-- A token in circulation was issued. -/
theorem mem_tokens {log : List Entry} {token : String} (h : token ∈ log.filterMap Entry.token?) :
    ∃ issuedAt readAt row presented, .issued issuedAt readAt row presented token ∈ log := by
  obtain ⟨e, he, htoken⟩ := List.mem_filterMap.1 h
  cases e with
  | issued issuedAt readAt row presented token' =>
    obtain rfl : token' = token := Option.some.inj htoken
    exact ⟨issuedAt, readAt, row, presented, he⟩
  | inserted now creator row password => cases htoken
  | changed now readAt user row presented password => cases htoken
  | flagged now row => cases htoken
  | accepted now token' user => cases htoken

/-- The row of an issued token has an id that fits its subject. -/
theorem id_of_issued {log : List Entry} (h : Justified (BehindInTime crypto config) log)
    {issuedAt readAt : ℕ} {row : UserModel} {presented token : String}
    (hmem : .issued issuedAt readAt row presented token ∈ log) :
    (0 < row.id ∧ row.id ≤ i32Max) ∧
      config.createUserToken crypto (.fromDbModel row) issuedAt = .ok token := by
  obtain ⟨before, after, rfl⟩ := List.append_of_mem hmem
  obtain ⟨⟨-, hread, htoken⟩, -⟩ := h before _ after rfl
  obtain ⟨older, since, rfl, ⟨hrow, -⟩, -⟩ := hread
  obtain ⟨-, hid, -⟩ := rowInOrder h.of_append.of_append _ _ hrow
  exact ⟨hid, htoken⟩

variable {user : DreamscrollAuthUser}

/-- An accepted caller goes on to what was asked for. -/
theorem stands_begin (hadmitted : Admitted user x.log) (action : Action) :
    Stands crypto x op (action.begin user) := by
  cases action with
  | other => trivial
  | createUser new =>
    unfold Action.begin
    dsimp only
    split_ifs with hadmin
    · exact ⟨hadmin, hadmitted⟩
    · trivial
  | changePassword currentPassword newPassword =>
    unfold Action.begin
    dsimp only
    split_ifs
    · trivial
    · trivial
    · trivial
    · exact hadmitted

/-- A request presents a bearer token: whoever is let in holds one that was
issued and has not expired. -/
theorem Inv.granted_extract (hcrypto : crypto.Lawful) (h : Inv crypto config x)
    {token : Option String} {action : Action}
    (hunforged : Unforged crypto config x op (.extract token action)) :
    Granted crypto config x op (next crypto config input x (.extract token action)) := by
  cases huser : config.fromRequestParts crypto x.now token with
  | error error =>
    simp only [next, huser]
    exact h.granted trivial
  | ok user =>
    cases token with
    | none => cases huser
    | some token =>
      have hdecoded : (config.decodeUserToken crypto x.now token).toOption.isSome = true := by
        change (config.decodeUserToken crypto x.now token >>= DreamscrollAuthUser.tryFrom) = _
          at huser
        cases hdecode : config.decodeUserToken crypto x.now token with
        | error error =>
          rw [hdecode] at huser
          cases huser
        | ok claims => rfl
      obtain ⟨issuedAt, readAt, row, presented, hissued⟩ := mem_tokens (hunforged hdecoded)
      obtain ⟨hid, htoken⟩ := id_of_issued h.justified hissued
      obtain ⟨heq, hlive⟩ := accepted_of_issued hcrypto hid htoken huser
      have he : Behind crypto config x.log (.accepted x.now token user) :=
        ⟨issuedAt, readAt, row, presented, hissued, heq, hlive⟩
      have hadmitted : Admitted user (x.record (.accepted x.now token user)).log :=
        ⟨x.now, token, List.mem_concat_self⟩
      simp only [next, huser]
      exact h.granted_record he rfl rfl (stands_begin hadmitted action)

/-- The check that the username is free writes nothing. -/
theorem Inv.granted_checkUsername (h : Inv crypto config x) {creator : Creator} {new : NewUser}
    (hplace : InFlight crypto x (.checkUsername creator new)) :
    Granted crypto config x op (next crypto config input x (.checkUsername creator new)) := by
  refine h.granted_reads ?_
  split_ifs
  · trivial
  · cases hhash : crypto.hashPassword input.salt new.password with
    | error error => trivial
    | ok passwordHash => exact ⟨hplace, input.salt, hhash⟩

/-- The check of a storage shard writes nothing: the call tries another, or
goes on to its insertion. -/
theorem Inv.granted_checkShard (h : Inv crypto config x) {creator : Creator} {new : NewUser}
    {passwordHash : String} {attempt : ℕ}
    (hplace : InFlight crypto x (.checkShard creator new passwordHash attempt)) :
    Granted crypto config x op
      (next crypto config input x (.checkShard creator new passwordHash attempt)) := by
  refine h.granted_reads ?_
  split_ifs
  · exact hplace
  · exact hplace
  · trivial

/-- A password change finds the account of the user who is let in, and checks
the current password against that row. -/
theorem Inv.granted_findAccount (hcrypto : crypto.Lawful) (h : Inv crypto config x)
    {currentPassword newPassword : String}
    (hplace : InFlight crypto x (.findAccount user currentPassword newPassword)) :
    Granted crypto config x op
      (next crypto config input x (.findAccount user currentPassword newPassword)) := by
  refine h.granted_reads ?_
  cases hrow : x.findById user.id with
  | none => trivial
  | some row =>
    dsimp only
    obtain ⟨hmem, hid⟩ := Accounts.findById_eq_some hrow
    cases hverify : crypto.verifyPassword row.passwordHash currentPassword with
    | error error => trivial
    | ok verified =>
      cases verified with
      | false => trivial
      | true =>
        dsimp only
        cases hhash : crypto.hashPassword input.salt newPassword with
        | error error => trivial
        | ok passwordHash =>
          have hholds := h.holds_of_verify hcrypto hmem hverify
          exact ⟨hid, ⟨input.salt, hhash⟩, Nat.le_refl _,
            h.readAt_now ⟨hplace, row, hid, hholds⟩⟩

/-- A password change writes the hash of the new password into the row it
read. -/
theorem Inv.granted_updatePassword (h : Inv crypto config x) {row : UserModel} {readAt : ℕ}
    {currentPassword newPassword passwordHash : String}
    (hplace : InFlight crypto x
      (.updatePassword user row readAt currentPassword newPassword passwordHash)) :
    Granted crypto config x op (next crypto config input x
      (.updatePassword user row readAt currentPassword newPassword passwordHash)) := by
  obtain ⟨hid, hsalt, htime, hread⟩ := hplace
  cases hinput : input.dbError with
  | some error =>
    simp only [next, hinput]
    exact h.granted trivial
  | none =>
    cases hcurrent : x.findById row.id with
    | none =>
      simp only [next, hinput, hcurrent]
      exact h.granted trivial
    | some current =>
      simp only [next, hinput, hcurrent]
      obtain ⟨-, hsame⟩ := Accounts.findById_eq_some hcurrent
      have hat : rowAt current.id x.log = some current := by
        rw [hsame, ← h.table]
        exact hcurrent
      exact h.granted_update (f := fun row => { row with passwordHash }) (fun _ => rfl) hcurrent
        ⟨⟨current, hat, rfl⟩, hsame.trans hid, hsalt, htime, hread⟩ rfl rfl

/-- Username and password are checked against the row as it is read. -/
theorem Inv.granted_authenticate (hcrypto : crypto.Lawful) (h : Inv crypto config x)
    {username password : String} :
    Granted crypto config x op (next crypto config input x (.authenticate username password)) := by
  refine h.granted_reads ?_
  cases hrow : authenticated crypto (x.findByUsername username) password with
  | error error => trivial
  | ok row =>
    obtain ⟨hfound, hverify⟩ := authenticated_eq_ok hrow
    have hholds := h.holds_of_verify hcrypto (Accounts.findByUsername_mem hfound) hverify
    exact ⟨Nat.le_refl _, h.readAt_now hholds⟩

/-- An admin who has presented the password of its row goes on to create. -/
theorem Inv.granted_authenticateAdmin (hcrypto : crypto.Lawful) (h : Inv crypto config x)
    {username password : String} {new : NewUser} :
    Granted crypto config x op
      (next crypto config input x (.authenticateAdmin username password new)) := by
  refine h.granted_reads ?_
  cases hrow : authenticated crypto (x.findByUsername username) password with
  | error error => trivial
  | ok row =>
    obtain ⟨hfound, hverify⟩ := authenticated_eq_ok hrow
    have hholds := h.holds_of_verify hcrypto (Accounts.findByUsername_mem hfound) hverify
    dsimp only
    split_ifs with hadmin
    · exact ⟨hadmin, Nat.le_refl _, h.readAt_now hholds⟩
    · trivial

/-- The token is made out to the row that was read, and the log says so. -/
theorem Inv.granted_createToken (h : Inv crypto config x) {row : UserModel} {readAt : ℕ}
    {presented : String} (hplace : InFlight crypto x (.createToken row readAt presented)) :
    Granted crypto config x op
      (next crypto config input x (.createToken row readAt presented)) := by
  cases htoken : config.createUserToken crypto (.fromDbModel row) x.now with
  | error error =>
    simp only [next, htoken]
    exact h.granted trivial
  | ok token =>
    have he : Behind crypto config x.log (.issued x.now readAt row presented token) :=
      ⟨hplace.1, hplace.2, htoken⟩
    simp only [next, htoken]
    exact h.granted_record he rfl rfl trivial

/-- The first-user command counts the accounts, and goes on if there are none. -/
theorem Inv.granted_countUsers (h : Inv crypto config x) {username password₁ password₂ : String} :
    Granted crypto config x op
      (next crypto config input x (.countUsers username password₁ password₂)) := by
  refine h.granted_reads ?_
  split_ifs with hcount hpasswords
  · trivial
  · trivial
  · cases hhash : crypto.hashPassword input.salt password₁ with
    | error error => trivial
    | ok passwordHash =>
      have hempty : x.users = [] := List.eq_nil_of_length_eq_zero (Nat.eq_zero_of_not_pos hcount)
      have hnone : ∀ id, rowAt id x.log = none := by
        intro id
        rw [← h.table, Accounts.findById, hempty]
        rfl
      exact ⟨⟨Nat.le_refl _, h.readAt_now hnone⟩, input.salt, hhash⟩

/-- The admin command finds the row it is about. -/
theorem Inv.granted_findAdmin (h : Inv crypto config x) {username : String} {isAdmin : Bool} :
    Granted crypto config x op (next crypto config input x (.findAdmin username isAdmin)) := by
  refine h.granted_reads ?_
  cases x.findByUsername username with
  | none => trivial
  | some row =>
    dsimp only
    split_ifs
    · trivial
    · trivial

/-- The admin command sets the flag of the row it found. -/
theorem Inv.granted_updateAdmin (h : Inv crypto config x) {row : UserModel} {isAdmin : Bool} :
    Granted crypto config x op (next crypto config input x (.updateAdmin row isAdmin)) := by
  cases hinput : input.dbError with
  | some error =>
    simp only [next, hinput]
    exact h.granted trivial
  | none =>
    cases hcurrent : x.findById row.id with
    | none =>
      simp only [next, hinput, hcurrent]
      exact h.granted trivial
    | some current =>
      obtain ⟨hmem, -⟩ := Accounts.findById_eq_some hcurrent
      have he : Behind crypto config x.log (.flagged x.now { current with isAdmin }) :=
        ⟨current, h.rowAt_of_mem hmem, rfl⟩
      simp only [next, hinput, hcurrent]
      exact h.granted_update (f := fun row => { row with isAdmin }) (fun _ => rfl) hcurrent he rfl
        rfl

/-- **Every statement keeps the invariant**, and grants its call what the
next one relies on. -/
theorem Inv.granted_next (hcrypto : crypto.Lawful) (h : Inv crypto config x) {place : Place}
    (hplace : InFlight crypto x place) (hunforged : Unforged crypto config x op place) :
    Granted crypto config x op (next crypto config input x place) := by
  cases place with
  | extract token action => exact h.granted_extract hcrypto hunforged
  | checkUsername creator new => exact h.granted_checkUsername hplace
  | checkShard creator new passwordHash attempt => exact h.granted_checkShard hplace
  | insertUser creator new passwordHash storageShard =>
    cases hinput : input.dbError with
    | some error =>
      simp only [next, hinput]
      exact h.granted trivial
    | none =>
      simp only [next, hinput]
      exact h.granted_insertUser hplace.1 hplace.2
  | findAccount user currentPassword newPassword => exact h.granted_findAccount hcrypto hplace
  | updatePassword user row readAt currentPassword newPassword passwordHash =>
    exact h.granted_updatePassword hplace
  | authenticate username password => exact h.granted_authenticate hcrypto
  | createToken row readAt presented => exact h.granted_createToken hplace
  | authenticateAdmin username password new => exact h.granted_authenticateAdmin hcrypto
  | countUsers username password₁ password₂ => exact h.granted_countUsers
  | findAdmin username isAdmin => exact h.granted_findAdmin
  | updateAdmin row isAdmin => exact h.granted_updateAdmin
  | tick seconds => exact h.granted_tick

end Statements

end Dreamscroll.Auth

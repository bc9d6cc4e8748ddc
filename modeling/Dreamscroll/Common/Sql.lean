import Mathlib.Data.Int.Notation
import Mathlib.Data.List.Forall2
import Mathlib.Data.Nat.Notation
import Mathlib.Tactic.Common
/-!
# Statements and transactions

A program over a database is a sequence of statements on one connection.
Any of them may be refused, and then the program ends with its error. What
was done before stays done, except inside a transaction, which is rolled
back; the values a sequence handed out are gone in either case.

The rules read a run backwards: a program that returned ran each of its
statements (`bind_eq_ok`, `forM_ok`), and a transaction that failed left the
tables as it found them (`tables_of_transaction_error`).
-/

namespace Dreamscroll

/-! ## Sequences -/

/-- The sequence behind a serial key, by the last value it handed out. -/
structure Sequence where
  last : ℕ
  deriving DecidableEq, Repr

namespace Sequence

/-- The maximum of a sequence of `integer` type. -/
def maxValue : ℕ := 2147483647

/-- `nextval`: the value after the last, up to the maximum. -/
def nextval (q : Sequence) : Option Sequence :=
  if q.last < maxValue then some ⟨q.last + 1⟩ else none

end Sequence

/-! ## Programs -/

/-- A connection: the tables, the sequences, and what the statements ahead
meet, one entry for each: the error that refuses it, if any. -/
structure Session (τ ς ε : Type) where
  tables : τ
  sequences : ς
  faults : List (Option ε)

/-- A program over a connection. -/
abbrev Sql (τ ς ε α : Type) := EStateM ε (Session τ ς ε) α

namespace Sql

variable {τ ς ε α β : Type}

/-- **One statement**: refused, or run. One that fails leaves the tables
alone. -/
def statement (f : τ → ς → Except ε (α × τ) × ς) : Sql τ ς ε α := fun s =>
  match s.faults.head?.join with
  | some e => .error e { s with faults := s.faults.tail }
  | none =>
    match f s.tables s.sequences with
    | (.ok (a, tables), sequences) => .ok a ⟨tables, sequences, s.faults.tail⟩
    | (.error e, sequences) => .error e ⟨s.tables, sequences, s.faults.tail⟩

/-- A statement that only reads. -/
def select (f : τ → α) : Sql τ ς ε α := statement fun tables q => (.ok (f tables, tables), q)

/-- A statement that writes and draws nothing. -/
def update (f : τ → τ) : Sql τ ς ε Unit := statement fun tables q => (.ok ((), f tables), q)

/-- An insert into a table with a serial key, which is drawn first: `write`
is what the insert does with the key. -/
def insertSerial (sequence : ς → Sequence) (store : ς → Sequence → ς) (exhausted : ε)
    (write : ℤ → τ → Except ε (α × τ)) : Sql τ ς ε α :=
  statement fun tables sequences =>
    match (sequence sequences).nextval with
    | none => (.error exhausted, sequences)
    | some q => (write q.last tables, store sequences q)

/-- **A transaction**, from `BEGIN` to `COMMIT`, which are statements like
any other. Ended by an error it is rolled back. -/
def transaction (body : Sql τ ς ε α) : Sql τ ς ε α := fun s =>
  match (update id >>= fun _ => body >>= fun a => update id >>= fun _ => pure a) s with
  | .ok a s' => .ok a s'
  | .error e s' => .error e { s' with tables := s.tables }

/-! ## Rules -/

variable {x : Sql τ ς ε α} {f : α → Sql τ ς ε β} {s s' : Session τ ς ε} {a : α} {b : β} {e : ε}
variable {g : τ → ς → Except ε (α × τ) × ς}

/-- **A program that returned ran its first statement, then the rest.** -/
theorem bind_eq_ok :
    (x >>= f) s = .ok b s' ↔ ∃ a t, x s = .ok a t ∧ f a t = .ok b s' := by
  show EStateM.bind x f s = _ ↔ _
  unfold EStateM.bind
  cases x s with
  | ok a t =>
    constructor
    · intro h
      exact ⟨a, t, rfl, h⟩
    · rintro ⟨a', t', heq, h⟩
      cases heq
      exact h
  | error e t =>
    constructor
    · intro h
      cases h
    · rintro ⟨a', t', heq, -⟩
      cases heq

/-- **One that failed failed at one of them.** -/
theorem bind_eq_error :
    (x >>= f) s = .error e s' ↔
      x s = .error e s' ∨ ∃ a t, x s = .ok a t ∧ f a t = .error e s' := by
  show EStateM.bind x f s = _ ↔ _
  unfold EStateM.bind
  cases x s with
  | ok a t =>
    constructor
    · intro h
      exact Or.inr ⟨a, t, rfl, h⟩
    · rintro (heq | ⟨a', t', heq, h⟩)
      · cases heq
      · cases heq
        exact h
  | error e' t =>
    constructor
    · intro h
      cases h
      exact Or.inl rfl
    · rintro (heq | ⟨a', t', heq, -⟩)
      · cases heq
        rfl
      · cases heq

/-- A pure value runs no statement. -/
theorem pure_eq_ok {a' : α} : (pure a : Sql τ ς ε α) s = .ok a' s' ↔ a = a' ∧ s = s' := by
  constructor
  · intro h
    cases h
    exact ⟨rfl, rfl⟩
  · rintro ⟨rfl, rfl⟩
    rfl

/-- A run that was computed. -/
theorem exists_ok_of_computed (x : Sql τ ς ε α) (s : Session τ ς ε) (p : Session τ ς ε → Bool)
    (h : (match x s with | .ok _ s' => p s' | .error .. => false) = true) :
    ∃ a s', x s = .ok a s' ∧ p s' = true := by
  rcases hx : x s with ⟨a, s'⟩ | ⟨e, s'⟩
  · rw [hx] at h
    exact ⟨a, s', rfl, h⟩
  · rw [hx] at h
    cases h

/-- What a statement that was run did. -/
theorem statement_eq_ok (h : statement g s = .ok a s') :
    g s.tables s.sequences = (.ok (a, s'.tables), s'.sequences) := by
  unfold statement at h
  split at h
  · cases h
  · split at h
    · rename_i hg
      cases h
      exact hg
    · cases h

/-- A query that succeeds answers what it reads and writes nothing. -/
theorem select_eq_ok {r : τ → α} (h : (select r : Sql τ ς ε α) s = .ok a s') :
    a = r s.tables ∧ s'.tables = s.tables ∧ s'.sequences = s.sequences := by
  have hg := statement_eq_ok h
  simp only [Prod.mk.injEq, Except.ok.injEq] at hg
  exact ⟨hg.1.1.symm, hg.1.2.symm, hg.2.symm⟩

/-- A write that succeeds has been applied to the tables, and draws no key. -/
theorem update_eq_ok {w : τ → τ} {u : Unit} (h : (update w : Sql τ ς ε Unit) s = .ok u s') :
    s'.tables = w s.tables ∧ s'.sequences = s.sequences := by
  have hg := statement_eq_ok h
  simp only [Prod.mk.injEq, Except.ok.injEq, true_and] at hg
  exact ⟨hg.1.symm, hg.2.symm⟩

/-- An insertion that succeeds has drawn the next key, and wrote its row under
it. -/
theorem insertSerial_eq_ok {sequence : ς → Sequence} {store : ς → Sequence → ς} {exhausted : ε}
    {write : ℤ → τ → Except ε (α × τ)}
    (h : insertSerial sequence store exhausted write s = .ok a s') :
    (sequence s.sequences).last < Sequence.maxValue ∧
      write ((sequence s.sequences).last + 1 : ℕ) s.tables = .ok (a, s'.tables) ∧
      s'.sequences = store s.sequences ⟨(sequence s.sequences).last + 1⟩ := by
  have hg := statement_eq_ok h
  unfold Sequence.nextval at hg
  split_ifs at hg with hlt
  · simp only [Prod.mk.injEq] at hg
    exact ⟨hlt, hg.1, hg.2.symm⟩
  · simp only [Prod.mk.injEq, reduceCtorEq, false_and] at hg

/-- **An insert returns** unless it is refused, out of keys, or its row is
not admitted. -/
theorem insertSerial_returns_iff {sequence : ς → Sequence} {store : ς → Sequence → ς}
    {exhausted : ε} {write : ℤ → τ → Except ε (α × τ)} :
    (∃ a s', insertSerial sequence store exhausted write s = .ok a s') ↔
      s.faults.head?.join = none ∧ (sequence s.sequences).last < Sequence.maxValue ∧
        ∃ p, write ((sequence s.sequences).last + 1 : ℕ) s.tables = .ok p := by
  constructor
  · rintro ⟨a, s', h⟩
    obtain ⟨hlt, hwrite, -⟩ := insertSerial_eq_ok h
    refine ⟨?_, hlt, _, hwrite⟩
    cases hfault : s.faults.head?.join with
    | none => rfl
    | some e =>
      unfold insertSerial statement at h
      rw [hfault] at h
      cases h
  · rintro ⟨hfault, hlt, ⟨a, tables⟩, hwrite⟩
    refine ⟨a, ⟨tables, store s.sequences ⟨(sequence s.sequences).last + 1⟩, s.faults.tail⟩, ?_⟩
    unfold insertSerial statement
    simp only [hfault, Sequence.nextval, if_pos hlt, hwrite]

/-- A statement uses up one entry of the fault schedule. -/
theorem faults_of_statement_ok (h : statement g s = .ok a s') : s'.faults = s.faults.tail := by
  unfold statement at h
  split at h
  · cases h
  · split at h
    · cases h
      rfl
    · cases h

/-- A statement that succeeded was not refused by the schedule. -/
theorem unrefused_of_statement_ok (h : statement g s = .ok a s') :
    s.faults.head?.join = none := by
  unfold statement at h
  split at h
  · cases h
  · assumption

/-- A statement that fails uses up one entry of the schedule too. -/
theorem faults_of_statement_error (h : statement g s = .error e s') :
    s'.faults = s.faults.tail := by
  unfold statement at h
  split at h
  · cases h
    rfl
  · split at h
    · cases h
    · cases h
      rfl

/-- A statement that fails keeps the keys it may have drawn: a sequence is not
rolled back. -/
theorem sequences_of_statement_error (h : statement g s = .error e s') :
    s'.sequences = s.sequences ∨ s'.sequences = (g s.tables s.sequences).2 := by
  unfold statement at h
  split at h
  · cases h
    exact Or.inl rfl
  · split at h
    · cases h
    · rename_i heq
      cases h
      exact Or.inr (congrArg Prod.snd heq).symm

/-- **A statement that failed changed no table.** -/
theorem tables_of_statement_error (h : statement g s = .error e s') :
    s'.tables = s.tables := by
  unfold statement at h
  split at h
  · cases h
    rfl
  · split at h
    · cases h
    · cases h
      rfl

/-- **A transaction that returned did what its body did.** -/
theorem transaction_eq_ok (h : transaction x s = .ok a s') :
    ∃ t t', t.tables = s.tables ∧ t.sequences = s.sequences ∧ x t = .ok a t' ∧
      s'.tables = t'.tables ∧ s'.sequences = t'.sequences := by
  unfold transaction at h
  split at h
  · rename_i hrun
    cases h
    obtain ⟨_, t, hbegin, hrest⟩ := bind_eq_ok.1 hrun
    obtain ⟨a', t', hbody, hend⟩ := bind_eq_ok.1 hrest
    obtain ⟨u, t'', hcommit, hpure⟩ := bind_eq_ok.1 hend
    obtain ⟨rfl, rfl⟩ := pure_eq_ok.1 hpure
    obtain ⟨htables, hsequences⟩ := update_eq_ok hbegin
    obtain ⟨htables', hsequences'⟩ := update_eq_ok hcommit
    exact ⟨t, t', htables, hsequences, hbody, htables', hsequences'⟩
  · cases h

/-- **A transaction that failed changed no table.** -/
theorem tables_of_transaction_error (h : transaction x s = .error e s') :
    s'.tables = s.tables := by
  unfold transaction at h
  split at h
  · cases h
  · cases h
    rfl

/-! ## Loops -/

variable {γ : Type} {body : γ → Sql τ ς ε PUnit} {l : List γ} {u : PUnit}

/-- **The loop rule**: what one iteration preserves, of the part done so
far, holds at the end of the whole. -/
theorem forM_ok {I : List γ → Session τ ς ε → Prop} (hstart : I [] s)
    (hstep : ∀ done c rest t t' v, l = done ++ c :: rest → I done t → body c t = .ok v t' →
      I (done ++ [c]) t')
    (h : l.forM body s = .ok u s') : I l s' := by
  suffices hgen : ∀ (rest done : List γ) (t : Session τ ς ε), l = done ++ rest → I done t →
      rest.forM body t = .ok u s' → I l s' from hgen l [] s rfl hstart h
  intro rest
  induction rest with
  | nil =>
    intro done t hl hI hrun
    obtain ⟨-, rfl⟩ := pure_eq_ok.1 hrun
    rw [List.append_nil] at hl
    exact hl ▸ hI
  | cons c rest ih =>
    intro done t hl hI hrun
    obtain ⟨v, t', hc, hrest⟩ := bind_eq_ok.1 hrun
    refine ih (done ++ [c]) t' ?_ (hstep done c rest t t' v hl hI hc) hrest
    rw [hl, List.append_assoc, List.singleton_append]

/-- **A loop of inserts** adds the rows of its iterations, in order: `put`
adds rows to the tables, and `J` is what no insert changes. -/
theorem forM_put {ρ : Type} {put : τ → List ρ → τ} {J : τ → Prop} {Holds : γ → ρ → Prop}
    (hnil : ∀ t, put t [] = t)
    (happend : ∀ t rows row, put (put t rows) [row] = put t (rows ++ [row]))
    (hkeep : ∀ t row, J t → J (put t [row]))
    (hbody : ∀ c t t' v, J t.tables → body c t = .ok v t' →
      ∃ row, t'.tables = put t.tables [row] ∧ Holds c row)
    (hJ : J s.tables) (h : l.forM body s = .ok u s') :
    ∃ rows, s'.tables = put s.tables rows ∧ List.Forall₂ Holds l rows := by
  have hend : J s'.tables ∧
      ∃ rows, s'.tables = put s.tables rows ∧ List.Forall₂ Holds l rows := by
    refine forM_ok (I := fun done t => J t.tables ∧
      ∃ rows, t.tables = put s.tables rows ∧ List.Forall₂ Holds done rows)
      ⟨hJ, [], (hnil _).symm, .nil⟩ ?_ h
    rintro done c rest t t' v - ⟨hJt, rows, hrows, hall⟩ hrun
    obtain ⟨row, hrow, hc⟩ := hbody c t t' v hJt hrun
    refine ⟨?_, rows ++ [row], ?_, List.rel_append hall (.cons hc .nil)⟩
    · rw [hrow]
      exact hkeep _ _ hJt
    · rw [hrow, hrows, happend]
  exact hend.2

/-! ## Checked updates -/

/-- An update that a constraint may forbid. -/
structure Checked (τ ε : Type) where
  blocked : τ → Bool
  violation : ε
  apply : τ → τ

namespace Checked

variable (d : Checked τ ε) (ds : List (Checked τ ε)) (faults : List (Option ε)) (t : τ)

/-- The statement, which the references to its rows may block. -/
def run : Sql τ ς ε PUnit :=
  statement fun t q => if d.blocked t then (.error d.violation, q) else (.ok (⟨⟩, d.apply t), q)

/-- The tables after these updates. -/
def after : τ := ds.foldl (fun t d => d.apply t) t

/-- The update at this position would fail if those before it did not: it is
refused, or forbidden. -/
def Fails (k : ℕ) : Prop :=
  ∃ d, ds[k]? = some d ∧ ((faults[k]?.join).isSome ∨ d.blocked (after (ds.take k) t))

variable {d ds faults t} {k : ℕ}

/-- The first statement fails when the schedule refuses it or the tables block
it. -/
theorem fails_zero : Fails (d :: ds) faults t 0 ↔ (faults.head?.join).isSome ∨ d.blocked t := by
  unfold Fails
  rw [List.head?_eq_getElem?]
  constructor
  · rintro ⟨d', hd, h⟩
    cases hd
    exact h
  · intro h
    exact ⟨d, rfl, h⟩

/-- A later statement fails when it does so behind the first one. -/
theorem fails_succ :
    Fails (d :: ds) faults t (k + 1) ↔ Fails ds faults.tail (d.apply t) k := by
  unfold Fails
  rw [List.getElem?_cons_succ, List.take_succ_cons, List.getElem?_tail]
  rfl

/-- What an update did, and why it failed. -/
theorem run_cases : (∃ s', (d.run : Sql τ ς ε PUnit) s = .ok ⟨⟩ s' ∧ s'.tables = d.apply s.tables ∧
      s'.faults = s.faults.tail ∧ ¬ ((s.faults.head?.join).isSome ∨ d.blocked s.tables)) ∨
    ∃ e s', (d.run : Sql τ ς ε PUnit) s = .error e s' ∧ s'.tables = s.tables ∧
      ((s.faults.head?.join).isSome ∨ d.blocked s.tables) := by
  unfold run statement
  cases hfault : s.faults.head?.join with
  | some e => exact Or.inr ⟨e, _, rfl, rfl, Or.inl rfl⟩
  | none =>
    by_cases hblocked : d.blocked s.tables = true
    · refine Or.inr ⟨d.violation, ⟨s.tables, s.sequences, s.faults.tail⟩, ?_, rfl, Or.inr hblocked⟩
      simp only [hblocked, if_true]
    · refine Or.inl ⟨⟨d.apply s.tables, s.sequences, s.faults.tail⟩, ?_, rfl, rfl, ?_⟩
      · simp only [hblocked, Bool.false_eq_true, if_false]
      · simpa using hblocked

/-- **Updates one after the other**: all are done, or those before the first
that fails are. -/
theorem forM_run_cases (ds : List (Checked τ ε)) (s : Session τ ς ε) :
    (∃ s', ds.forM (fun d => (d.run : Sql τ ς ε PUnit)) s = .ok ⟨⟩ s' ∧
      s'.tables = after ds s.tables ∧ ∀ k, ¬ Fails ds s.faults s.tables k) ∨
    ∃ e s' k, ds.forM (fun d => (d.run : Sql τ ς ε PUnit)) s = .error e s' ∧
      s'.tables = after (ds.take k) s.tables ∧ Fails ds s.faults s.tables k ∧
      ∀ j < k, ¬ Fails ds s.faults s.tables j := by
  induction ds generalizing s with
  | nil => exact Or.inl ⟨s, rfl, rfl, fun k ⟨d, hd, _⟩ => by cases hd⟩
  | cons d ds ih =>
    rcases run_cases (d := d) (s := s) with ⟨t, hrun, htables, hfaults, hok⟩ | ⟨e, t, hrun, htables, hfails⟩
    · rcases ih t with ⟨s', hrest, hafter, hnone⟩ | ⟨e, s', k, hrest, hafter, hfails, hfirst⟩
      · rw [htables, hfaults] at hnone
        refine Or.inl ⟨s', bind_eq_ok.2 ⟨_, t, hrun, hrest⟩, ?_, ?_⟩
        · rw [hafter, htables]
          rfl
        · rintro (_ | k)
          · exact fun h => hok (fails_zero.1 h)
          · exact fun h => hnone k (fails_succ.1 h)
      · rw [htables, hfaults] at hfails hfirst
        refine Or.inr ⟨e, s', k + 1, bind_eq_error.2 (Or.inr ⟨_, t, hrun, hrest⟩), ?_,
          fails_succ.2 hfails, ?_⟩
        · rw [hafter, htables]
          rfl
        · rintro (_ | j) hj
          · exact fun h => hok (fails_zero.1 h)
          · exact fun h => hfirst j (by omega) (fails_succ.1 h)
    · refine Or.inr ⟨e, t, 0, bind_eq_error.2 (Or.inl hrun), htables, fails_zero.2 hfails, ?_⟩
      intro j hj
      omega

end Checked

/-! ## What holds however a program ends -/

/-- **The program keeps this of the sequences**, whether it returns or
fails. -/
structure Keeps (P : ς → Prop) (x : Sql τ ς ε α) : Prop where
  of_ok : ∀ s s' a, P s.sequences → x s = .ok a s' → P s'.sequences
  of_error : ∀ s s' e, P s.sequences → x s = .error e s' → P s'.sequences

variable {P : ς → Prop}

/-- A pure value keeps every fact about the sequences. -/
theorem keeps_pure : Keeps P (pure a : Sql τ ς ε α) := by
  constructor
  · intro s s' a hs h
    cases h
    exact hs
  · intro s s' e hs h
    cases h

/-- A failure keeps every fact about the sequences. -/
theorem keeps_throw : Keeps P (throw e : Sql τ ς ε α) := by
  constructor
  · intro s s' a hs h
    cases h
  · intro s s' e hs h
    cases h
    exact hs

/-- A statement keeps a fact that its own draw keeps. -/
theorem keeps_statement (hg : ∀ t q, P q → P (g t q).2) : Keeps P (statement g) := by
  constructor
  · intro s s' a hs h
    have hnext := hg s.tables s.sequences hs
    rw [statement_eq_ok h] at hnext
    exact hnext
  · intro s s' e hs h
    have hnext := hg s.tables s.sequences hs
    unfold statement at h
    split at h
    · cases h
      exact hs
    · split at h
      · cases h
      · rename_i heq
        cases h
        rw [heq] at hnext
        exact hnext

/-- A query draws no key. -/
theorem keeps_select {r : τ → α} : Keeps P (select r : Sql τ ς ε α) :=
  keeps_statement fun _ _ h => h

/-- A write of the tables draws no key. -/
theorem keeps_update {w : τ → τ} : Keeps P (update w : Sql τ ς ε Unit) :=
  keeps_statement fun _ _ h => h

/-- An insertion keeps a fact that drawing the next key keeps. -/
theorem keeps_insertSerial {sequence : ς → Sequence} {store : ς → Sequence → ς} {exhausted : ε}
    {write : ℤ → τ → Except ε (α × τ)}
    (h : ∀ q, P q → P (store q ⟨(sequence q).last + 1⟩)) :
    Keeps P (insertSerial sequence store exhausted write) := by
  refine keeps_statement fun t q hq => ?_
  unfold Sequence.nextval
  split_ifs
  · exact h q hq
  · exact hq

/-- Two programs in a row keep what each of them keeps. -/
theorem keeps_bind (hx : Keeps P x) (hf : ∀ a, Keeps P (f a)) : Keeps P (x >>= f) := by
  constructor
  · intro s s' b hs h
    obtain ⟨a, t, hfirst, hrest⟩ := bind_eq_ok.1 h
    exact (hf a).of_ok t s' b (hx.of_ok s t a hs hfirst) hrest
  · intro s s' e hs h
    rcases bind_eq_error.1 h with hfirst | ⟨a, t, hfirst, hrest⟩
    · exact hx.of_error s s' e hs hfirst
    · exact (hf a).of_error t s' e (hx.of_ok s t a hs hfirst) hrest

/-- A loop keeps what its body keeps, by induction on the list. -/
theorem keeps_forM (h : ∀ c, Keeps P (body c)) : Keeps P (l.forM body) := by
  induction l with
  | nil => exact keeps_pure
  | cons c l ih => exact keeps_bind (h c) fun _ => ih

/-- A transaction keeps what its body keeps: a rollback restores the tables
and not the sequences. -/
theorem keeps_transaction (hx : Keeps P x) : Keeps P (transaction x) := by
  have hbody : Keeps P (update id >>= fun _ => x >>= fun a => update id >>= fun _ => pure a) :=
    keeps_bind keeps_update fun _ => keeps_bind hx fun _ =>
      keeps_bind keeps_update fun _ => keeps_pure
  constructor
  · intro s s' a hs h
    unfold transaction at h
    split at h
    · rename_i hrun
      cases h
      exact hbody.of_ok s s' a hs hrun
    · cases h
  · intro s s' e hs h
    unfold transaction at h
    split at h
    · cases h
    · rename_i hrun
      have hkept := hbody.of_error _ _ _ hs hrun
      cases h
      exact hkept

/-! ## What a program leaves alone -/

/-- **The program does not write this part of the tables**, whether it
returns or fails. -/
structure Frames {π : Type} (part : τ → π) (x : Sql τ ς ε α) : Prop where
  of_ok : ∀ s s' a, x s = .ok a s' → part s'.tables = part s.tables
  of_error : ∀ s s' e, x s = .error e s' → part s'.tables = part s.tables

variable {π : Type} {part : τ → π}

/-- A pure value leaves every part of the tables alone. -/
theorem frames_pure : Frames part (pure a : Sql τ ς ε α) := by
  constructor
  · intro s s' a h
    cases h
    rfl
  · intro s s' e h
    cases h

/-- A failure leaves every part of the tables alone. -/
theorem frames_throw : Frames part (throw e : Sql τ ς ε α) := by
  constructor
  · intro s s' a h
    cases h
  · intro s s' e h
    cases h
    rfl

/-- A query leaves every part of the tables alone. -/
theorem frames_select {r : τ → α} : Frames part (select r : Sql τ ς ε α) where
  of_ok s s' a h := by rw [(select_eq_ok h).2.1]
  of_error s s' e h := by rw [tables_of_statement_error h]

/-- An insertion leaves alone what its write leaves alone. -/
theorem frames_insertSerial {sequence : ς → Sequence} {store : ς → Sequence → ς} {exhausted : ε}
    {write : ℤ → τ → Except ε (α × τ)}
    (h : ∀ id t a t', write id t = .ok (a, t') → part t' = part t) :
    Frames part (insertSerial sequence store exhausted write) where
  of_ok s s' a hrun := h _ _ _ _ (insertSerial_eq_ok hrun).2.1
  of_error s s' e hrun := by rw [tables_of_statement_error hrun]

/-- Two programs in a row leave alone what each of them leaves alone. -/
theorem frames_bind (hx : Frames part x) (hf : ∀ a, Frames part (f a)) :
    Frames part (x >>= f) := by
  constructor
  · intro s s' b h
    obtain ⟨a, t, hfirst, hrest⟩ := bind_eq_ok.1 h
    exact ((hf a).of_ok t s' b hrest).trans (hx.of_ok s t a hfirst)
  · intro s s' e h
    rcases bind_eq_error.1 h with hfirst | ⟨a, t, hfirst, hrest⟩
    · exact hx.of_error s s' e hfirst
    · exact ((hf a).of_error t s' e hrest).trans (hx.of_ok s t a hfirst)

/-- A loop leaves alone what its body leaves alone, by induction on the list. -/
theorem frames_forM (h : ∀ c, Frames part (body c)) : Frames part (l.forM body) := by
  induction l with
  | nil => exact frames_pure
  | cons c l ih => exact frames_bind (h c) fun _ => ih

end Sql

end Dreamscroll

import DieselOci.Statement

namespace DieselOci
set_option autoImplicit true

open Oci

/-- What a fetch writes into a field, never past the end of its buffer. -/
def Field.write (f : Field τ) (bytes : List UInt8) (ind : BitVec 16) : Field τ :=
  { f with
    buffer := (bytes ++ f.buffer.drop bytes.length).take f.buffer.length
    nullIndicator := ind }

def writeRow : List (Field τ) → List (List UInt8 × BitVec 16) → List (Field τ)
  | f :: fs, (b, i) :: rs => f.write b i :: writeRow fs rs
  | fs, _ => fs

/-- The row handed to the decoder: each buffer with whether its indicator is `-1`. -/
def Cursor.row (c : Cursor τ) : List (List UInt8 × Bool) :=
  c.results.map fun f => (f.buffer, f.isNull)

def Cursor.fetchCall (c : Cursor τ) : Call :=
  .stmtFetch2 c.stmt.innerStatement c.stmt.errorHandle 1 OCI_FETCH_NEXT

/-- `Cursor::next`, returning the cursor with its answer. -/
def Cursor.next (decode : List (List UInt8 × Bool) → Except String α) (self : Cursor τ) :
    Oci Error (Cursor τ × Option (Except Error α)) := do
  let r ← native self.fetchCall
  let self := { self with results := writeRow self.results r.row }
  match ← attempt (checkError self.stmt.errorHandle r.status) with
  | .error err => return (self, some (.error err))
  | .ok () =>
    if r.status = OCI_NO_DATA then
      return (self, none)
    let self := { self with currentRow := self.currentRow + 1 }
    return (self, some ((decode self.row).mapError .deserializationError))

def Cursor.drop (c : Cursor τ) : Oci ε Unit := dropFields c.results

/-- `k` calls of a `&mut self` method, with their answers in order. -/
def Oci.iterate (step : σ → Oci ε (σ × β)) : Nat → σ → Oci ε (σ × List β)
  | 0, s => pure (s, [])
  | k + 1, s => do
    let (s, b) ← step s
    let (s, bs) ← iterate step k s
    return (s, b :: bs)

def Entry.isFetch (e : Entry) : Bool :=
  match e.call with
  | .stmtFetch2 .. => true
  | _ => false

theorem next_fetches_once (decode : List (List UInt8 × Bool) → Except String α)
    (c : Cursor τ) (lib : Lib) (h : List Entry) :
    (c.next decode lib h).2.countP Entry.isFetch = 1 := by
  rw [Cursor.next, native_bind, List.countP_cons_of_pos _ _ rfl, Nat.add_left_eq_self,
    List.countP_eq_zero]
  intro e he
  have hc : e.call = errorGetCall c.stmt.errorHandle := by
    refine (Issues.bind (.attempt (checkError_issues _ _)) fun x => ?_) _ _ e he
    rcases x with _ | ⟨⟩
    · exact .pure _
    · dsimp only
      split_ifs <;> exact .bind (.pure _) fun _ => .pure _
  simp [Entry.isFetch, hc, errorGetCall]

namespace Oci

theorem iterate_succ_ok {step : σ → Oci ε (σ × β)}
    (hr : iterate step (k + 1) s lib h = (.ok (s', bs), w)) :
    ∃ s₁ b bs' w₁ w₂, step s lib h = (.ok (s₁, b), w₁) ∧
      iterate step k s₁ lib (h ++ w₁) = (.ok (s', bs'), w₂) ∧ bs = b :: bs' ∧
      w = w₁ ++ w₂ := by
  obtain ⟨⟨s₁, b⟩, w₁, w', h₁, hk, rfl⟩ := bind_eq_ok hr
  obtain ⟨⟨s₂, bs'⟩, w₂, w₃, h₂, hp, rfl⟩ := bind_eq_ok hk
  simp only [pure_apply, Prod.mk.injEq, Exit.ok.injEq] at hp
  obtain ⟨⟨rfl, rfl⟩, rfl⟩ := hp
  exact ⟨s₁, b, bs', w₁, w₂, h₁, h₂, rfl, by simp⟩

theorem iterate_succ_of_ok {step : σ → Oci ε (σ × β)}
    (h₁ : step s lib h = (.ok (s₁, b), w₁))
    (h₂ : iterate step k s₁ lib (h ++ w₁) = (.ok (s', bs), w₂)) :
    iterate step (k + 1) s lib h = (.ok (s', b :: bs), w₁ ++ w₂) := by
  simp only [iterate, bind_of_ok h₁, bind_of_ok h₂, pure_apply, List.append_nil]

theorem iterate_length {step : σ → Oci ε (σ × β)}
    (hr : iterate step k s lib h = (.ok (s', bs), w)) : bs.length = k := by
  induction k generalizing s h s' bs w with
  | zero =>
    cases hr
    rfl
  | succ k ih =>
    obtain ⟨s₁, b, bs', w₁, w₂, -, h₂, rfl, -⟩ := iterate_succ_ok hr
    simp [ih h₂]

end Oci

/-- The states of the spec's cursor. -/
inductive Phase where
  | active
  | exhausted
  | failed
  deriving DecidableEq, Repr

/-- An answer of `next` as the spec tells them apart. -/
inductive Answer (α : Type) where
  | empty
  | row (v : Except String α)
  | failed

def Answer.of : Option (Except Error α) → Answer α
  | none => .empty
  | some (.ok v) => .row (.ok v)
  | some (.error (.deserializationError m)) => .row (.error m)
  | some (.error (.databaseError _ _)) => .failed

@[simp] theorem Answer.of_mapError (v : Except String α) :
    Answer.of (some (v.mapError .deserializationError)) = .row v := by
  cases v <;> rfl

def Answer.phase : Answer α → Phase
  | .empty => .exhausted
  | .row _ => .active
  | .failed => .failed

/-- The cursor of the spec. -/
structure SpecCursor (τ : Type) where
  phase : Phase
  stmt : Statement
  results : List (Field τ)

def SpecCursor.fetch (decode : List (List UInt8 × Bool) → Except String α) (s : SpecCursor τ)
    (r : Reply) : SpecCursor τ × Answer α :=
  let results := writeRow s.results r.row
  if r.status = OCI_NO_DATA then (⟨.exhausted, s.stmt, results⟩, .empty)
  else if r.status = OCI_ERROR ∨ r.status = OCI_INVALID_HANDLE then (⟨.failed, s.stmt, results⟩, .failed)
  else (⟨.active, s.stmt, results⟩,
    .row (decode (results.map fun f => (f.buffer, f.nullIndicator == -1))))

/-- `k` calls of the spec's cursor, fed the replies to its fetches in order. -/
def SpecCursor.run (decode : List (List UInt8 × Bool) → Except String α) :
    Nat → SpecCursor τ → List Reply → SpecCursor τ × List (Answer α) × List Reply
  | 0, s, rs => (s, [], rs)
  | k + 1, s, rs =>
    match s.phase, rs with
    | .active, r :: rs =>
      let (s, a) := s.fetch decode r
      let (s, as, rs) := SpecCursor.run decode k s rs
      (s, a :: as, rs)
    | .active, [] => (s, [], [])
    | _, rs =>
      let (s, as, rs) := SpecCursor.run decode k s rs
      (s, .empty :: as, rs)

theorem SpecCursor.run_active (decode : List (List UInt8 × Bool) → Except String α)
    (st : Statement) (fs : List (Field τ)) (r : Reply) (rs : List Reply) :
    SpecCursor.run decode (k + 1) ⟨.active, st, fs⟩ (r :: rs) =
      let p := SpecCursor.fetch decode ⟨.active, st, fs⟩ r
      ((SpecCursor.run decode k p.1 rs).1, p.2 :: (SpecCursor.run decode k p.1 rs).2.1,
        (SpecCursor.run decode k p.1 rs).2.2) := rfl

def fetchReplies (w : List Entry) : List Reply := (w.filter Entry.isFetch).map (·.reply)

/-- A diagnostic lookup that found no error record. -/
def Entry.isEmptyRecord (e : Entry) : Bool :=
  match e.call with
  | .errorGet .. => e.reply.status == OCI_NO_DATA
  | _ => false

theorem next_spec {decode : List (List UInt8 × Bool) → Except String α} {c : Cursor τ}
    (hn : c.next decode lib h = (.ok (c₁, a), w)) (he : ∀ e ∈ w, e.isEmptyRecord = false) :
    fetchReplies w = [lib h c.fetchCall] ∧
      SpecCursor.fetch decode ⟨.active, c.stmt, c.results⟩ (lib h c.fetchCall) =
        (⟨(Answer.of a).phase, c₁.stmt, c₁.results⟩, Answer.of a) := by
  obtain ⟨w', hk, rfl⟩ := native_bind_inv hn
  rw [attempt_bind, checkError_apply] at hk
  have hf : fetchReplies (⟨c.fetchCall, lib h c.fetchCall⟩ :: w') = lib h c.fetchCall ::
      fetchReplies w' := rfl
  rw [hf]
  generalize lib (h ++ _) (errorGetCall _) = R at hk he
  generalize lib h c.fetchCall = r at hk he ⊢
  simp only [pure_bind, ite_apply, pure_apply, apply_ite Prod.fst, apply_ite Prod.snd] at hk
  by_cases hE : r.status = OCI_ERROR
  · rw [if_pos hE] at hk
    rcases hd : diagnose R with _ | e | s <;> rw [hd] at hk <;>
      simp only [Prod.mk.injEq, Exit.ok.injEq, List.append_nil] at hk
    · have := he ⟨errorGetCall c.stmt.errorHandle, R⟩
        (List.mem_cons_of_mem _ (hk.2 ▸ List.mem_append_left _ (List.mem_singleton_self _)))
      simp [Entry.isEmptyRecord, errorGetCall, diagnose_eq_ok hd] at this
    · obtain ⟨⟨rfl, rfl⟩, rfl⟩ := hk
      obtain ⟨k, m, rfl⟩ := diagnose_err hd
      simp [fetchReplies, Entry.isFetch, errorGetCall, SpecCursor.fetch, hE, Answer.of, Answer.phase,
        show OCI_ERROR ≠ OCI_NO_DATA by decide]
    · cases hk.1
  rw [if_neg hE] at hk
  by_cases hI : r.status = OCI_INVALID_HANDLE
  · rw [if_pos hI] at hk
    obtain ⟨⟨rfl, rfl⟩, rfl⟩ := hk
    simp [fetchReplies, SpecCursor.fetch, hI, Answer.of, Answer.phase,
      show OCI_INVALID_HANDLE ≠ OCI_NO_DATA by decide]
  rw [if_neg hI] at hk
  by_cases hN : r.status = OCI_NO_DATA
  · simp only [hN, if_true, Prod.mk.injEq, Exit.ok.injEq, List.append_nil] at hk
    obtain ⟨⟨rfl, rfl⟩, rfl⟩ := hk
    simp [fetchReplies, SpecCursor.fetch, hN, Answer.of, Answer.phase]
  · simp only [hN, if_false, Prod.mk.injEq, Exit.ok.injEq, List.append_nil] at hk
    obtain ⟨⟨rfl, rfl⟩, rfl⟩ := hk
    simp [fetchReplies, SpecCursor.fetch, hE, hI, hN, Answer.phase, Cursor.row, Field.isNull]

theorem iterate_next_fetches {decode : List (List UInt8 × Bool) → Except String α}
    {c : Cursor τ} (hrun : iterate (Cursor.next decode) k c lib h = (.ok (c', as), w)) :
    w.countP Entry.isFetch = k := by
  induction k generalizing c h as w with
  | zero =>
    cases hrun
    rfl
  | succ k ih =>
    obtain ⟨c₁, b, bs, w₁, w₂, h₁, h₂, rfl, rfl⟩ := iterate_succ_ok hrun
    have hf₁ : w₁.countP Entry.isFetch = 1 := by
      simpa [h₁] using next_fetches_once decode c lib h
    rw [List.countP_append, hf₁, ih h₂, Nat.add_comm]

def sampleConnection : RawConnection := ⟨⟨1, 2, 0⟩, 3, 4, 5, 6⟩

def sampleStatement : Statement := ⟨sampleConnection, 7, 0, true, [], [], []⟩

def rowThenEndLib : Lib := fun h _ => if h.isEmpty then {} else { status := OCI_NO_DATA }

def endThenRowLib : Lib := fun h _ => if h.isEmpty then { status := OCI_NO_DATA } else {}

def noRecordLib : Lib := fun _ c => match c with
  | .errorGet .. => { status := OCI_NO_DATA }
  | _ => { status := OCI_ERROR }

def Entry.isSucceededFetch (e : Entry) : Bool :=
  e.isFetch && e.reply.status != OCI_ERROR && e.reply.status != OCI_INVALID_HANDLE &&
    e.reply.status != OCI_NO_DATA

/-- The rows a log of `next` calls hands to the decoder. -/
def rowsFetched (w : List Entry) : Nat :=
  w.countP Entry.isSucceededFetch + w.countP Entry.isEmptyRecord

@[simp] theorem rowsFetched_append (w₁ w₂ : List Entry) :
    rowsFetched (w₁ ++ w₂) = rowsFetched w₁ + rowsFetched w₂ := by
  simp only [rowsFetched, List.countP_append]
  omega

@[simp] theorem isSucceededFetch_fetchCall (c : Cursor τ) (r : Reply) :
    Entry.isSucceededFetch ⟨c.fetchCall, r⟩ =
      (r.status != OCI_ERROR && r.status != OCI_INVALID_HANDLE && r.status != OCI_NO_DATA) := rfl

@[simp] theorem isEmptyRecord_fetchCall (c : Cursor τ) (r : Reply) :
    Entry.isEmptyRecord ⟨c.fetchCall, r⟩ = false := rfl

@[simp] theorem isSucceededFetch_errorGet (eh : Nat) (r : Reply) :
    Entry.isSucceededFetch ⟨errorGetCall eh, r⟩ = false := rfl

@[simp] theorem isEmptyRecord_errorGet (eh : Nat) (r : Reply) :
    Entry.isEmptyRecord ⟨errorGetCall eh, r⟩ = (r.status == OCI_NO_DATA) := rfl

theorem next_currentRow {decode : List (List UInt8 × Bool) → Except String α} {c : Cursor τ}
    (hn : c.next decode lib h = (.ok (c', a), w)) :
    c'.currentRow = c.currentRow + BitVec.ofNat 32 (rowsFetched w) := by
  obtain ⟨w', hk, rfl⟩ := native_bind_inv hn
  rw [attempt_bind, checkError_apply] at hk
  generalize lib (h ++ _) (errorGetCall _) = R at hk
  generalize lib h c.fetchCall = r at hk
  simp only [pure_bind, ite_apply, pure_apply, apply_ite Prod.fst, apply_ite Prod.snd] at hk
  by_cases he : r.status = OCI_ERROR
  · rw [if_pos he, he, if_neg (by decide)] at hk
    rcases hd : diagnose R with _ | e | s <;> rw [hd] at hk <;>
      simp only [Prod.mk.injEq, Exit.ok.injEq, List.append_nil] at hk
    · obtain ⟨⟨rfl, -⟩, rfl⟩ := hk
      simp [rowsFetched, he, diagnose_eq_ok hd]
    · have hs : R.status ≠ OCI_NO_DATA := fun hs => by rw [diagnose, if_pos hs] at hd; cases hd
      obtain ⟨⟨rfl, -⟩, rfl⟩ := hk
      simp [rowsFetched, he, hs]
    · cases hk.1
  · rw [if_neg he] at hk
    split_ifs at hk with hi hd <;>
      simp only [Prod.mk.injEq, Exit.ok.injEq, List.append_nil, List.nil_append] at hk <;>
      obtain ⟨⟨rfl, -⟩, rfl⟩ := hk <;> simp [rowsFetched, *]

theorem iterate_next_currentRow {decode : List (List UInt8 × Bool) → Except String α}
    {c : Cursor τ} (hrun : iterate (Cursor.next decode) k c lib h = (.ok (c', as), w)) :
    c'.currentRow = c.currentRow + BitVec.ofNat 32 (rowsFetched w) := by
  induction k generalizing c h as w with
  | zero =>
    cases hrun
    simp [rowsFetched]
  | succ k ih =>
    obtain ⟨c₁, b, bs, w₁, w₂, h₁, h₂, rfl, rfl⟩ := iterate_succ_ok hrun
    rw [ih h₂, next_currentRow h₁, rowsFetched_append, BitVec.ofNat_add, BitVec.add_assoc]

/-- `current_row` counts the rows handed out, modulo `2 ^ 32`. -/
theorem next_counts_rows (decode : List (List UInt8 × Bool) → Except String α)
    (stmt : Statement) (binds : List (Field τ)) (k : Nat) (lib : Lib) (h : List Entry)
    (hrun : iterate (Cursor.next decode) k (Cursor.new stmt binds) lib h = (.ok (c, as), w)) :
    c.currentRow.toNat =
      (w.countP Entry.isSucceededFetch + w.countP Entry.isEmptyRecord) % 2 ^ 32 := by
  rw [iterate_next_currentRow hrun]
  simp [Cursor.new, rowsFetched]

theorem next_counts_rows_row_then_end :
    iterate (Cursor.next fun _ => .ok (0 : Nat)) 2 (Cursor.new sampleStatement ([] : List (Field Unit)))
        rowThenEndLib [] =
      (.ok (⟨sampleStatement, [], 1⟩, [some (.ok 0), none]),
        [⟨.stmtFetch2 7 2 1 OCI_FETCH_NEXT, {}⟩,
          ⟨.stmtFetch2 7 2 1 OCI_FETCH_NEXT, { status := OCI_NO_DATA }⟩]) ∧
    (1 : Word).toNat =
      ([⟨.stmtFetch2 7 2 1 OCI_FETCH_NEXT, {}⟩,
          ⟨.stmtFetch2 7 2 1 OCI_FETCH_NEXT, { status := OCI_NO_DATA }⟩].countP
          Entry.isSucceededFetch +
        [⟨.stmtFetch2 7 2 1 OCI_FETCH_NEXT, {}⟩,
          ⟨.stmtFetch2 7 2 1 OCI_FETCH_NEXT, { status := OCI_NO_DATA }⟩].countP
          Entry.isEmptyRecord) % 2 ^ 32 :=
  have hrun : iterate (Cursor.next fun _ => .ok (0 : Nat)) 2
      (Cursor.new sampleStatement ([] : List (Field Unit))) rowThenEndLib [] =
      (.ok (⟨sampleStatement, [], 1⟩, [some (.ok 0), none]),
        [⟨.stmtFetch2 7 2 1 OCI_FETCH_NEXT, {}⟩,
          ⟨.stmtFetch2 7 2 1 OCI_FETCH_NEXT, { status := OCI_NO_DATA }⟩]) := rfl
  ⟨hrun, next_counts_rows _ _ _ 2 _ _ hrun⟩

theorem writeRow_nil (fs : List (Field τ)) : writeRow fs [] = fs := by
  cases fs <;> rfl

theorem next_all_success (decode : List (List UInt8 × Bool) → Except String α) (c : Cursor τ)
    (h : List Entry) :
    c.next decode (fun _ _ => {}) h =
      (.ok ({ c with currentRow := c.currentRow + 1 },
          some ((decode c.row).mapError .deserializationError)), [⟨c.fetchCall, {}⟩]) := by
  simp only [Cursor.next, native_bind, attempt_bind, checkError_apply, writeRow_nil]
  rfl

theorem iterate_next_all_success (decode : List (List UInt8 × Bool) → Except String α)
    (c : Cursor τ) (k : Nat) (h : List Entry) :
    ∃ as, iterate (Cursor.next decode) k c (fun _ _ => {}) h =
      (.ok ({ c with currentRow := c.currentRow + BitVec.ofNat 32 k }, as),
        List.replicate k ⟨c.fetchCall, {}⟩) := by
  induction k generalizing c h with
  | zero => exact ⟨[], by simp [iterate]⟩
  | succ k ih =>
    obtain ⟨as, has⟩ := ih { c with currentRow := c.currentRow + 1 } (h ++ [⟨c.fetchCall, {}⟩])
    have hk : c.currentRow + 1 + BitVec.ofNat 32 k = c.currentRow + BitVec.ofNat 32 (k + 1) := by
      rw [BitVec.ofNat_add, BitVec.add_comm (BitVec.ofNat 32 k), ← BitVec.add_assoc]
      rfl
    have := iterate_succ_of_ok (next_all_success decode c h) has
    rw [hk] at this
    exact ⟨_, this⟩

/-- A record-less `OCI_ERROR` is counted, and `2 ^ 32` fetches wrap the counter. -/
theorem next_counts_failed_and_wraps :
    (iterate (Cursor.next fun _ => .ok (0 : Nat)) 1
        (Cursor.new sampleStatement ([] : List (Field Unit))) noRecordLib []).1.map
        (·.1.currentRow.toNat) = .ok 1 ∧
    (iterate (Cursor.next fun _ => .ok (0 : Nat)) 1
        (Cursor.new sampleStatement ([] : List (Field Unit))) noRecordLib []).2.countP
        Entry.isSucceededFetch = 0 ∧
    (iterate (Cursor.next fun _ => .ok (0 : Nat)) (2 ^ 32)
        (Cursor.new sampleStatement ([] : List (Field Unit))) (fun _ _ => {}) []).1.map
        (·.1.currentRow.toNat) = .ok 0 ∧
    (iterate (Cursor.next fun _ => .ok (0 : Nat)) (2 ^ 32)
        (Cursor.new sampleStatement ([] : List (Field Unit))) (fun _ _ => {}) []).2.countP
        Entry.isSucceededFetch = 2 ^ 32 := by
  obtain ⟨as, has⟩ := iterate_next_all_success (fun _ => .ok (0 : Nat))
    (Cursor.new sampleStatement ([] : List (Field Unit))) (2 ^ 32) []
  refine ⟨by decide, by decide, ?_, ?_⟩
  · rw [has]
    rfl
  · rw [has, List.countP_replicate, if_pos (by decide)]

end DieselOci

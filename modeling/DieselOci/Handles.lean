import DieselOci.Columns

namespace DieselOci
set_option autoImplicit true

open Oci

/-- The kind of the handle a call allocates. -/
def Call.allocKind : Call → Option Nat
  | .envNlsCreate => some OCI_HTYPE_ENV
  | .handleAlloc _ htype => some htype
  | .stmtPrepare2 .. => some OCI_HTYPE_STMT
  | .defineByPos .. => some OCI_HTYPE_DEFINE
  | _ => none

/-- The handle a call releases, with the kind it releases it as. -/
def Call.releases : Call → Option (Nat × Nat)
  | .handleFree handle htype => some (handle, htype)
  | .stmtRelease stmt _ => some (stmt, OCI_HTYPE_STMT)
  | _ => none

def Entry.allocates (e : Entry) : Option (Nat × Nat) :=
  e.call.allocKind.map (e.reply.handle, ·)

def allocations (w : List Entry) : List (Nat × Nat) := w.filterMap Entry.allocates

def releases (w : List Entry) : List (Nat × Nat) := w.filterMap fun e => e.call.releases

@[simp] theorem allocations_nil : allocations [] = [] := rfl

@[simp] theorem allocations_cons : allocations (e :: w) =
    (e.call.allocKind.map (e.reply.handle, ·)).toList ++ allocations w := by
  simp only [allocations, Entry.allocates, List.filterMap_cons]
  cases e.call.allocKind <;> rfl

@[simp] theorem allocations_append : allocations (w₁ ++ w₂) = allocations w₁ ++ allocations w₂ :=
  List.filterMap_append _ _ _

@[simp] theorem releases_nil : releases [] = [] := rfl

@[simp] theorem releases_cons : releases (e :: w) = e.call.releases.toList ++ releases w := by
  simp only [releases, List.filterMap_cons]
  cases e.call.releases <;> rfl

@[simp] theorem releases_append : releases (w₁ ++ w₂) = releases w₁ ++ releases w₂ :=
  List.filterMap_append _ _ _

theorem allocations_releases_eq_nil (hw : ∀ e ∈ w, e.call.allocKind = none ∧ e.call.releases = none) :
    allocations w = [] ∧ releases w = [] := by
  induction w with
  | nil => exact ⟨rfl, rfl⟩
  | cons e w ih =>
    obtain ⟨ha, hr⟩ := hw e (List.mem_cons_self _ _)
    have := ih fun x hx => hw x (List.mem_cons_of_mem _ hx)
    simp [ha, hr, this]

/-- Every run of `m` that returns `a`, with the calls `w`, satisfies `Q a w`. -/
def Oci.Returns (Q : α → List Entry → Prop) (m : Oci ε α) : Prop :=
  ∀ lib h a, (m lib h).1 = .ok a → Q a (m lib h).2

namespace Oci.Returns

theorem pure {Q : α → List Entry → Prop} (hQ : Q a []) : Returns Q (Pure.pure a : Oci ε α) := by
  rintro lib h b ⟨⟩
  exact hQ

theorem throw {Q : α → List Entry → Prop} (e : ε) : Returns Q (Oci.throw e : Oci ε α) := by
  rintro lib h b ⟨⟩

theorem lift {Q : α → List Entry → Prop} {x : Exit ε α} (hQ : ∀ a, x = .ok a → Q a []) :
    Returns Q (Oci.lift x : Oci ε α) :=
  fun _ _ a ha => hQ a ha

theorem mono {m : Oci ε α} (hm : Returns Q m) (hQ : ∀ a w, Q a w → Q' a w) : Returns Q' m :=
  fun lib h a ha => hQ _ _ (hm lib h a ha)

theorem and {m : Oci ε α} (h₁ : Returns Q m) (h₂ : Returns Q' m) :
    Returns (fun a w => Q a w ∧ Q' a w) m :=
  fun lib h a ha => ⟨h₁ lib h a ha, h₂ lib h a ha⟩

theorem bind {P : α → List Entry → Prop} {Q : β → List Entry → Prop} {m : Oci ε α}
    {k : α → Oci ε β} (hm : Returns P m)
    (hk : ∀ a w, P a w → Returns (fun b w' => Q b (w ++ w')) (k a)) : Returns Q (m >>= k) := by
  intro lib h b hb
  obtain ⟨a, w, hm', hk'⟩ := bind_fst_eq_ok hb
  have hp := hm lib h a (by rw [hm'])
  rw [hm'] at hp
  rw [bind_of_ok hm']
  exact hk a w hp lib (h ++ w) b hk'

theorem native {Q : β → List Entry → Prop} {k : Reply → Oci ε β}
    (hk : ∀ r, Returns (fun b w => Q b (⟨c, r⟩ :: w)) (k r)) : Returns Q (Oci.native c >>= k) := by
  intro lib h b hb
  rw [native_bind] at hb ⊢
  exact hk _ lib _ b hb

theorem onAbort {m : Oci ε α} {d : Oci ε Unit} (hm : Returns Q m) : Returns Q (Oci.onAbort d m) := by
  intro lib h a ha
  rw [onAbort_fst] at ha
  rw [onAbort_snd, ha, List.append_nil]
  exact hm lib h a ha

theorem unwindWith {m : Oci ε α} {d : Oci ε Unit} (hm : Returns Q m) :
    Returns Q (Oci.unwindWith d m) := by
  intro lib h a ha
  rw [unwindWith_fst_eq_ok] at ha
  rw [unwindWith_snd, onAbort_snd, ha, List.append_nil]
  exact hm lib h a ha

theorem mapErr {m : Oci ε α} (f : ε → ε') (hm : Returns Q m) : Returns Q (Oci.mapErr f m) := by
  intro lib h a ha
  rw [mapErr_snd]
  refine hm lib h a ?_
  revert ha
  simp only [Oci.mapErr]
  rcases m lib h with ⟨b | e | s, w⟩ <;> simp

end Oci.Returns

theorem Oci.Issues.ledger_eq_nil (hm : Issues (fun c => c.allocKind = none ∧ c.releases = none) m)
    (lib : Lib) (h : List Entry) : allocations (m lib h).2 = [] ∧ releases (m lib h).2 = [] :=
  allocations_releases_eq_nil (hm lib h)

theorem Oci.Returns.of_neutral {m : Oci ε α}
    (hm : Issues (fun c => c.allocKind = none ∧ c.releases = none) m) :
    Returns (fun _ w => allocations w = [] ∧ releases w = []) m :=
  fun lib h _ _ => hm.ledger_eq_nil lib h

theorem checkError_neutral : Issues (fun c => c.allocKind = none ∧ c.releases = none) (checkError eh s) :=
  (checkError_issues eh s).mono fun _ hc => hc ▸ ⟨rfl, rfl⟩

theorem checkError_ledger :
    Returns (fun _ w => allocations w = [] ∧ releases w = []) (checkError eh s) :=
  .of_neutral checkError_neutral

theorem new_ledger : Returns (fun env w => allocations w = [(env.handle, OCI_HTYPE_ENV),
    (env.errorHandle, OCI_HTYPE_ERROR)] ∧ releases w = []) ConnectionEnviroment.new := by
  refine .native fun r => ?_
  dsimp only
  split_ifs
  · rw [throw_bind]
    exact .throw _
  · simp only [pure_bind, allocHandle, bind_assoc]
    exact .native fun _ => .native fun _ => .pure (by simp [Call.allocKind, Call.releases])

theorem establish_ledger (url : String) : Returns (fun c w =>
    allocations w = [(c.env.handle, OCI_HTYPE_ENV), (c.env.errorHandle, OCI_HTYPE_ERROR),
      (c.serverHandle, OCI_HTYPE_SERVER), (c.serviceHandle, OCI_HTYPE_SVCCTX),
      (c.sessionHandle, OCI_HTYPE_SESSION), (c.transactionHandle, OCI_HTYPE_TRANS)] ∧
    releases w = []) (RawConnection.establish url) := by
  simp only [RawConnection.establish, allocHandle, bind_assoc, pure_bind]
  refine .bind (.lift fun _ _ => (rfl : ([] : List Entry) = [])) fun _ _ h₀ => ?_
  refine .bind new_ledger fun env w₁ ⟨ha₁, hr₁⟩ => .onAbort ?_
  refine .native fun _ => .native fun _ => .native fun _ => .native fun _ => .native fun _ =>
    .bind (checkError_ledger.mapErr _) fun _ w₂ ⟨ha₂, hr₂⟩ => ?_
  refine .native fun _ => .native fun _ => .native fun _ => .native fun _ =>
    .bind (checkError_ledger.mapErr _) fun _ w₃ ⟨ha₃, hr₃⟩ => ?_
  refine .native fun _ => .native fun _ => .pure ?_
  subst h₀
  simp [ha₁, hr₁, ha₂, hr₂, ha₃, hr₃, Call.allocKind, Call.releases]

theorem RawConnection.drop_ledger (c : RawConnection) (lib : Lib) (h : List Entry) :
    allocations (c.drop lib h : Exit ε Unit × _).2 = [] ∧
    releases (c.drop lib h : Exit ε Unit × _).2 = [(c.sessionHandle, OCI_HTYPE_SESSION),
      (c.serviceHandle, OCI_HTYPE_SVCCTX), (c.serverHandle, OCI_HTYPE_ENV),
      (c.transactionHandle, OCI_HTYPE_TRANS), (c.env.errorHandle, OCI_HTYPE_ERROR),
      (c.env.handle, OCI_HTYPE_ENV)] :=
  ⟨rfl, rfl⟩

theorem prepare_create_ledger (hu : strFind sql "CREATE" = some u) (h10 : u < 10) :
    Returns (fun s w => releases w = [] ∧ ∃ first, allocations w =
      [(first, OCI_HTYPE_STMT), (s.innerStatement, OCI_HTYPE_STMT)]) (Statement.prepare conn sql) := by
  refine .native fun r => .bind checkError_ledger fun _ w₁ ⟨ha₁, hr₁⟩ => ?_
  dsimp only
  rw [hu]
  dsimp only
  rw [if_pos h10]
  refine .native fun _ => .bind checkError_ledger fun _ w₂ ⟨ha₂, hr₂⟩ => ?_
  rw [pure_bind]
  exact .pure ⟨by simp [ha₁, hr₁, ha₂, hr₂, Call.releases],
    r.handle, by simp [ha₁, hr₁, ha₂, hr₂, Call.allocKind]⟩

theorem Statement.drop_ledger (s : Statement) (lib : Lib) (h : List Entry) :
    allocations (s.drop lib h).2 = [] ∧
      releases (s.drop lib h).2 = [(s.innerStatement, OCI_HTYPE_STMT)] := by
  have hk : ∀ r : Reply, Issues (fun c => c.allocKind = none ∧ c.releases = none)
      ((attempt (checkError s.errorHandle r.status) : Oci Error _) >>= fun _ => pure ()) :=
    fun _ => .bind (.attempt checkError_neutral) fun _ => .pure _
  obtain ⟨ha, hr⟩ := (hk _).ledger_eq_nil lib _
  rw [Statement.drop, native_bind, allocations_cons, releases_cons]
  exact ⟨ha, congrArg _ hr⟩

theorem bind_throw_aborts (m : Oci ε α) (e : ε) (lib : Lib) (h : List Entry) :
    ((m >>= fun _ => (Oci.throw e : Oci ε β)) lib h).1.Aborts := by
  rw [bind_apply, Oci.bind]
  rcases m lib h with ⟨a | e | s, w⟩ <;> trivial

theorem define_unsupported_ledger (T : DataTypeOps τ) (self : Statement) (hT : T.fromRaw tpe = none)
    (lib : Lib) (h : List Entry) :
    (self.define T fields tpe size pos lib h).1.Aborts ∧
    allocations (self.define T fields tpe size pos lib h).2 =
      [((lib h (self.defineCall tpe size pos)).handle, OCI_HTYPE_DEFINE)] ∧
    releases (self.define T fields tpe size pos lib h).2 = [] := by
  obtain ⟨ha, hr⟩ := checkError_neutral.ledger_eq_nil lib _
  refine ⟨?_, ?_, ?_⟩
  · simp only [Statement.define, native_bind, hT]
    exact bind_throw_aborts _ _ _ _
  · rw [define_snd, allocations_cons, ha]
    rfl
  · rw [define_snd, releases_cons, hr]
    rfl

/-- The handle ledgers of three paths through the driver, on every library. -/
theorem handle_ledger_leaks (T : DataTypeOps τ) :
    (∀ url lib h c, (RawConnection.establish url lib h).1 = .ok c →
      allocations ((RawConnection.establish url >>= RawConnection.drop) lib h).2 =
        [(c.env.handle, OCI_HTYPE_ENV), (c.env.errorHandle, OCI_HTYPE_ERROR),
          (c.serverHandle, OCI_HTYPE_SERVER), (c.serviceHandle, OCI_HTYPE_SVCCTX),
          (c.sessionHandle, OCI_HTYPE_SESSION), (c.transactionHandle, OCI_HTYPE_TRANS)] ∧
      releases ((RawConnection.establish url >>= RawConnection.drop) lib h).2 =
        [(c.sessionHandle, OCI_HTYPE_SESSION), (c.serviceHandle, OCI_HTYPE_SVCCTX),
          (c.serverHandle, OCI_HTYPE_ENV), (c.transactionHandle, OCI_HTYPE_TRANS),
          (c.env.errorHandle, OCI_HTYPE_ERROR), (c.env.handle, OCI_HTYPE_ENV)]) ∧
    (∀ conn sql u lib h s, strFind sql "CREATE" = some u → u < 10 →
      (Statement.prepare conn sql lib h).1 = .ok s →
      (∃ first, allocations ((Statement.prepare conn sql >>= Statement.drop) lib h).2 =
        [(first, OCI_HTYPE_STMT), (s.innerStatement, OCI_HTYPE_STMT)]) ∧
      releases ((Statement.prepare conn sql >>= Statement.drop) lib h).2 =
        [(s.innerStatement, OCI_HTYPE_STMT)]) ∧
    (∀ (self : Statement) fields tpe size pos lib h, T.fromRaw tpe = none →
      (self.define T fields tpe size pos lib h).1.Aborts ∧
      allocations (self.define T fields tpe size pos lib h).2 =
        [((lib h (self.defineCall tpe size pos)).handle, OCI_HTYPE_DEFINE)] ∧
      releases (self.define T fields tpe size pos lib h).2 = []) := by
  refine ⟨fun url lib h c hc => ?_, fun conn sql u lib h s hu h10 hs => ?_,
    fun self _ _ _ _ lib h hT => define_unsupported_ledger T self hT lib h⟩
  · obtain ⟨ha, hr⟩ := establish_ledger url lib h c hc
    obtain ⟨ha', hr'⟩ := c.drop_ledger (ε := ConnectionError) lib (h ++ (RawConnection.establish url lib h).2)
    rw [bind_of_ok (Prod.ext hc rfl), allocations_append, releases_append, ha, hr, ha', hr']
    exact ⟨List.append_nil _, List.nil_append _⟩
  · obtain ⟨hr, first, ha⟩ := prepare_create_ledger hu h10 lib h s hs
    obtain ⟨ha', hr'⟩ := s.drop_ledger lib (h ++ (Statement.prepare conn sql lib h).2)
    rw [bind_of_ok (Prod.ext hs rfl), allocations_append, releases_append, ha, hr, ha', hr']
    exact ⟨⟨first, List.append_nil _⟩, List.nil_append _⟩

/-- A library that answers every call with status `0` and a fresh handle. -/
def freshHandleLib : Lib := fun h _ => { handle := h.length + 1 }

theorem handle_ledger_leaks_fresh_handles :
    (RawConnection.establish "oci://u/p@//db" freshHandleLib []).1 = .ok ⟨⟨1, 2, 0⟩, 5, 4, 6, 7⟩ ∧
    allocations ((RawConnection.establish "oci://u/p@//db" >>= RawConnection.drop)
        freshHandleLib []).2 =
      [(1, OCI_HTYPE_ENV), (2, OCI_HTYPE_ERROR), (4, OCI_HTYPE_SERVER), (5, OCI_HTYPE_SVCCTX),
        (6, OCI_HTYPE_SESSION), (7, OCI_HTYPE_TRANS)] ∧
    releases ((RawConnection.establish "oci://u/p@//db" >>= RawConnection.drop)
        freshHandleLib []).2 =
      [(6, OCI_HTYPE_SESSION), (5, OCI_HTYPE_SVCCTX), (4, OCI_HTYPE_ENV), (7, OCI_HTYPE_TRANS),
        (2, OCI_HTYPE_ERROR), (1, OCI_HTYPE_ENV)] ∧
    strFind "CREATE TABLE t" "CREATE" = some 0 ∧
    (Statement.prepare sampleConnection "CREATE TABLE t" freshHandleLib []).1 =
      .ok ⟨sampleConnection, 2, 0, false, [], [], []⟩ ∧
    releases ((Statement.prepare sampleConnection "CREATE TABLE t" >>= Statement.drop)
        freshHandleLib []).2 = [(2, OCI_HTYPE_STMT)] ∧
    (sampleStatement.define ⟨SQLT_BFLOAT, SQLT_STR, id, fun _ => none⟩ [] SQLT_INT 8 1
        freshHandleLib []).1.Aborts ∧
    allocations (sampleStatement.define ⟨SQLT_BFLOAT, SQLT_STR, id, fun _ => none⟩ [] SQLT_INT 8 1
        freshHandleLib []).2 = [(1, OCI_HTYPE_DEFINE)] := by
  have hc : (RawConnection.establish "oci://u/p@//db" freshHandleLib []).1 =
      .ok ⟨⟨1, 2, 0⟩, 5, 4, 6, 7⟩ := by decide
  have hf : strFind "CREATE TABLE t" "CREATE" = some 0 := by decide
  have hs : (Statement.prepare sampleConnection "CREATE TABLE t" freshHandleLib []).1 =
      .ok ⟨sampleConnection, 2, 0, false, [], [], []⟩ := by decide
  have leaks := handle_ledger_leaks (⟨SQLT_BFLOAT, SQLT_STR, id, fun _ => none⟩ : DataTypeOps Nat)
  obtain ⟨ha, hr⟩ := leaks.1 _ _ _ _ hc
  obtain ⟨-, hr'⟩ := leaks.2.1 _ _ _ _ _ _ hf (by decide) hs
  obtain ⟨hd, hda, -⟩ := leaks.2.2 sampleStatement [] SQLT_INT 8 1 freshHandleLib [] rfl
  exact ⟨hc, ha, hr, hf, hs, hr', hd, hda⟩

namespace Statement

variable (self : Statement)

theorem getAttrTypeAndSize_neutral :
    Issues (fun c => c.allocKind = none ∧ c.releases = none) (self.getAttrTypeAndSize col) :=
  getAttrTypeAndSize_issues.mono fun _ hc => by rcases hc with ⟨_, rfl⟩ | rfl <;> exact ⟨rfl, rfl⟩

theorem getColumnCount_neutral :
    Issues (fun c => c.allocKind = none ∧ c.releases = none) self.getColumnCount :=
  .bind (.native ⟨rfl, rfl⟩) fun _ => .bind checkError_neutral fun _ => .pure _

variable (T : DataTypeOps τ)

theorem defineColumn_ledger : Returns (fun fs w => ∃ f, fs = fields ++ [f] ∧
    allocations w = [(f.inner, OCI_HTYPE_DEFINE)] ∧ releases w = []) (self.defineColumn T fields pos) := by
  refine .native fun _ => .bind checkError_ledger fun _ w₁ ⟨ha₁, hr₁⟩ =>
    .bind (.of_neutral self.getAttrTypeAndSize_neutral) fun x w₂ ⟨ha₂, hr₂⟩ => ?_
  refine .native fun r => .bind checkError_ledger fun _ w₃ ⟨ha₃, hr₃⟩ => ?_
  split
  · exact .pure ⟨_, rfl, by simp [ha₁, ha₂, ha₃, Call.allocKind], by simp [hr₁, hr₂, hr₃, Call.releases]⟩
  · exact .throw _

theorem defineColumns_ledger (i n : Nat) (fields : List (Field τ)) :
    Returns (fun fs w => ∃ news, fs = fields ++ news ∧
      allocations w = news.map (·.inner, OCI_HTYPE_DEFINE) ∧ releases w = [])
      (self.defineColumns T i n fields) := by
  induction n generalizing i fields with
  | zero => exact .pure ⟨[], by simp, rfl, rfl⟩
  | succ n ih =>
    refine .bind (.onAbort (self.defineColumn_ledger T)) fun _ w ⟨f, hf, ha, hr⟩ =>
      (ih _ _).mono fun _ _ ⟨news, hn, ha', hr'⟩ => ⟨f :: news, ?_, ?_, ?_⟩
    · simp [hn, hf]
    · simp [ha, ha']
    · simp [hr, hr']

theorem defineAllColumns_ledger : Returns (fun fs w =>
    allocations w = fs.map (·.inner, OCI_HTYPE_DEFINE) ∧ releases w = []) (self.defineAllColumns T) :=
  .bind (.of_neutral self.getColumnCount_neutral) fun _ _ ⟨ha, hr⟩ => (self.defineColumns_ledger T 0 _ []).mono fun _ _ ⟨news, hn, ha', hr'⟩ =>
      ⟨by simp [ha, ha', hn], by simp [hr, hr']⟩

theorem runWithCursor_ledger : Returns (fun (c : Cursor τ) w =>
    allocations w = c.results.map (·.inner, OCI_HTYPE_DEFINE) ∧ releases w = [])
    (self.runWithCursor T) :=
  .bind (.of_neutral (.bind (.native ⟨rfl, rfl⟩) fun _ => checkError_neutral)) fun _ _ ⟨ha, hr⟩ =>
    .bind (self.defineAllColumns_ledger T) fun _ _ ⟨ha', hr'⟩ =>
      .pure ⟨by simp [ha, ha', Cursor.new], by simp [hr, hr']⟩

end Statement

theorem dropFields_ledger (fields : List (Field τ)) (lib : Lib) (h : List Entry) :
    allocations (dropFields fields lib h : Exit ε Unit × _).2 = [] ∧
    releases (dropFields fields lib h : Exit ε Unit × _).2 = fields.map (·.inner, OCI_HTYPE_DEFINE) := by
  induction fields generalizing h with
  | nil => exact ⟨rfl, rfl⟩
  | cons f fs ih =>
    have hf : (f.drop : Oci ε Unit) lib h = (.ok (), [⟨.handleFree f.inner OCI_HTYPE_DEFINE,
        lib h (.handleFree f.inner OCI_HTYPE_DEFINE)⟩]) := rfl
    rw [dropFields, bind_of_ok hf]
    simp [ih, Call.allocKind, Call.releases]

/-- Dropping the cursor of `run_with_cursor` releases the define handles the run allocated. -/
theorem runWithCursor_drop_ledger (T : DataTypeOps τ) (self : Statement)
    (hc : (self.runWithCursor T lib h).1 = .ok c) :
    allocations ((self.runWithCursor T >>= Cursor.drop) lib h).2 =
        c.results.map (·.inner, OCI_HTYPE_DEFINE) ∧
      releases ((self.runWithCursor T >>= Cursor.drop) lib h).2 =
        c.results.map (·.inner, OCI_HTYPE_DEFINE) := by
  obtain ⟨ha, hr⟩ := self.runWithCursor_ledger T lib h c hc
  obtain ⟨ha', hr'⟩ := dropFields_ledger (ε := Error) c.results lib (h ++ (self.runWithCursor T lib h).2)
  rw [bind_of_ok (Prod.ext hc rfl), allocations_append, releases_append, ha, hr]
  exact ⟨by rw [Cursor.drop, ha', List.append_nil], by rw [Cursor.drop, hr', List.nil_append]⟩

theorem runWithCursor_drop_ledger_two_numbers :
    (sampleStatement.runWithCursor rawTypes (columnsLib 2 ⟨SQLT_NUM, 10, 0, 0⟩) []).1 =
        .ok ⟨sampleStatement, List.replicate 2 ⟨0, [0, 0, 0, 0], -1, SQLT_INT⟩, 0⟩ ∧
      allocations ((sampleStatement.runWithCursor rawTypes >>= Cursor.drop)
        (columnsLib 2 ⟨SQLT_NUM, 10, 0, 0⟩) []).2 = [(0, OCI_HTYPE_DEFINE), (0, OCI_HTYPE_DEFINE)] ∧
      releases ((sampleStatement.runWithCursor rawTypes >>= Cursor.drop)
        (columnsLib 2 ⟨SQLT_NUM, 10, 0, 0⟩) []).2 = [(0, OCI_HTYPE_DEFINE), (0, OCI_HTYPE_DEFINE)] :=
  have hc : (sampleStatement.runWithCursor rawTypes (columnsLib 2 ⟨SQLT_NUM, 10, 0, 0⟩) []).1 =
      .ok ⟨sampleStatement, List.replicate 2 ⟨0, [0, 0, 0, 0], -1, SQLT_INT⟩, 0⟩ := by decide
  ⟨hc, runWithCursor_drop_ledger rawTypes sampleStatement hc⟩

theorem prepare_once_ledger (hs : ∀ u, strFind sql "CREATE" = some u → 10 ≤ u) :
    Returns (fun s w => allocations w = [(s.innerStatement, OCI_HTYPE_STMT)] ∧ releases w = [])
      (Statement.prepare conn sql) := by
  refine .native fun r => .bind checkError_ledger fun _ w₁ ⟨ha₁, hr₁⟩ => ?_
  dsimp only
  split
  · next u hu =>
    rw [if_neg (Nat.not_lt.2 (hs u hu)), pure_bind]
    exact .pure ⟨by simp [ha₁, Call.allocKind], by simp [hr₁, Call.releases]⟩
  · rw [pure_bind]
    exact .pure ⟨by simp [ha₁, Call.allocKind], by simp [hr₁, Call.releases]⟩

/-- A statement and its drop are balanced exactly without `CREATE` in its first ten bytes. -/
theorem prepare_drop_balanced_iff (hs : (Statement.prepare conn sql lib h).1 = .ok s) :
    (releases ((Statement.prepare conn sql >>= Statement.drop) lib h).2).Perm
        (allocations ((Statement.prepare conn sql >>= Statement.drop) lib h).2) ↔
      ∀ u, strFind sql "CREATE" = some u → 10 ≤ u := by
  obtain ⟨ha', hr'⟩ := s.drop_ledger lib (h ++ (Statement.prepare conn sql lib h).2)
  rw [bind_of_ok (Prod.ext hs rfl), allocations_append, releases_append, ha', hr',
    List.append_nil]
  by_cases hc : ∃ u, strFind sql "CREATE" = some u ∧ u < 10
  · obtain ⟨u, hu, h10⟩ := hc
    obtain ⟨hr, first, ha⟩ := prepare_create_ledger hu h10 lib h s hs
    rw [ha, hr, List.nil_append]
    exact iff_of_false (fun hp => by simpa using hp.length_eq) fun hall => by
      have := hall u hu
      omega
  · have hall : ∀ u, strFind sql "CREATE" = some u → 10 ≤ u := fun u hu =>
      Nat.not_lt.1 fun h10 => hc ⟨u, hu, h10⟩
    obtain ⟨ha, hr⟩ := prepare_once_ledger hall lib h s hs
    rw [ha, hr, List.nil_append]
    exact iff_of_true (List.Perm.refl _) hall

theorem prepare_drop_balanced_select :
    (Statement.prepare sampleConnection "SELECT 1" (fun _ _ => {}) []).1 =
        .ok ⟨sampleConnection, 0, 0, true, [], [], []⟩ ∧
      ((releases ((Statement.prepare sampleConnection "SELECT 1" >>= Statement.drop)
          (fun _ _ => {}) []).2).Perm
        (allocations ((Statement.prepare sampleConnection "SELECT 1" >>= Statement.drop)
          (fun _ _ => {}) []).2) ↔
      ∀ u, strFind "SELECT 1" "CREATE" = some u → 10 ≤ u) :=
  have hs : (Statement.prepare sampleConnection "SELECT 1" (fun _ _ => {}) []).1 =
      .ok ⟨sampleConnection, 0, 0, true, [], [], []⟩ := by decide
  ⟨hs, prepare_drop_balanced_iff hs⟩

namespace Statement

variable (self : Statement) (T : DataTypeOps τ)

theorem defineColumn_ledger_le (fields : List (Field τ)) (pos : Nat) (lib : Lib) (h : List Entry) :
    releases (self.defineColumn T fields pos lib h).2 = [] ∧ ∃ last : List Nat, last.length ≤ 1 ∧
      allocations (self.defineColumn T fields pos lib h).2 = last.map (·, OCI_HTYPE_DEFINE) := by
  rw [Statement.defineColumn, native_bind]
  dsimp only
  generalize h ++ _ = h₁
  generalize lib h (.paramGet self.innerStatement OCI_HTYPE_STMT self.errorHandle
    (BitVec.ofNat 32 pos)) = r
  have hc := (checkError_neutral : Issues _ (checkError self.errorHandle r.status)).ledger_eq_nil lib h₁
  rcases hr : checkError self.errorHandle r.status lib h₁ with ⟨⟨⟩ | e | s, w₁⟩ <;> rw [hr] at hc
  · rw [bind_of_ok hr]
    generalize h₁ ++ w₁ = h₂
    have hg := (self.getAttrTypeAndSize_neutral : Issues _ (self.getAttrTypeAndSize r.handle)).ledger_eq_nil lib h₂
    rcases hr' : self.getAttrTypeAndSize r.handle lib h₂ with ⟨⟨tpe, size⟩ | e | s, w₂⟩ <;>
      rw [hr'] at hg
    · rw [bind_of_ok hr']
      generalize h₂ ++ w₂ = h₃
      have hd := (checkError_neutral : Issues _ (checkError self.errorHandle
        (lib h₃ (self.defineCall tpe size pos)).status)).ledger_eq_nil lib
        (h₃ ++ [⟨self.defineCall tpe size pos, lib h₃ (self.defineCall tpe size pos)⟩])
      refine ⟨?_, [(lib h₃ (self.defineCall tpe size pos)).handle], le_rfl, ?_⟩ <;>
        simp only [define_snd, releases_cons, allocations_cons, releases_append, allocations_append,
          hc.1, hc.2, hg.1, hg.2, hd.1, hd.2] <;> rfl
    all_goals
      first | rw [bind_of_err hr'] | rw [bind_of_panic hr']
      exact ⟨by simp [hc, hg, Call.releases], [], by simp, by simp [hc, hg, Call.allocKind]⟩
  all_goals
    first | rw [bind_of_err hr] | rw [bind_of_panic hr]
    exact ⟨by simp [hc, Call.releases], [], by simp, by simp [hc, Call.allocKind]⟩

theorem defineColumns_aborted_ledger (i n : Nat) (fields : List (Field τ)) (lib : Lib)
    (h : List Entry) (ha : (self.defineColumns T i n fields lib h).1.Aborts) :
    ∃ news : List (Field τ), ∃ last : List Nat, last.length ≤ 1 ∧
      allocations (self.defineColumns T i n fields lib h).2 =
        news.map (·.inner, OCI_HTYPE_DEFINE) ++ last.map (·, OCI_HTYPE_DEFINE) ∧
      releases (self.defineColumns T i n fields lib h).2 =
        (fields ++ news).map (·.inner, OCI_HTYPE_DEFINE) := by
  induction n generalizing i fields h with
  | zero => exact ha.elim
  | succ n ih =>
    simp only [Statement.defineColumns] at ha ⊢
    obtain ⟨hr₁, last, hl, ha₁⟩ := self.defineColumn_ledger_le T fields (i + 1) lib h
    rcases hc : self.defineColumn T fields (i + 1) lib h with ⟨fs | e | s, w₁⟩ <;> rw [hc] at hr₁ ha₁
    · have ho : onAbort (dropFields fields) (self.defineColumn T fields (i + 1)) lib h = (.ok fs, w₁) := by
        simp [onAbort, hc]
      rw [bind_of_ok ho] at ha ⊢
      obtain ⟨f, rfl, ha₁, -⟩ := self.defineColumn_ledger T lib h fs (by rw [hc])
      rw [hc] at ha₁
      obtain ⟨news, last, hl, ha₂, hr₂⟩ := ih (i + 1) (fields ++ [f]) (h ++ w₁) ha
      exact ⟨f :: news, last, hl, by simp [ha₁, ha₂], by simp [hr₁, hr₂]⟩
    all_goals
      obtain ⟨ha₂, hr₂⟩ := dropFields_ledger (ε := Error) fields lib (h ++ w₁)
      refine ⟨[], last, hl, ?_, ?_⟩
      · simp [bind_snd, onAbort_snd, onAbort_fst, hc, ha₁, ha₂]
      · simp [bind_snd, onAbort_snd, onAbort_fst, hc, hr₁, hr₂]

/-- An early end of `define_all_columns` releases what it allocated but at most the last. -/
theorem defineAllColumns_aborted_ledger (lib : Lib) (h : List Entry)
    (ha : (self.defineAllColumns T lib h).1.Aborts) :
    releases (self.defineAllColumns T lib h).2 <+: allocations (self.defineAllColumns T lib h).2 ∧
      (allocations (self.defineAllColumns T lib h).2).length ≤
        (releases (self.defineAllColumns T lib h).2).length + 1 ∧
      ∀ p ∈ allocations (self.defineAllColumns T lib h).2, p.2 = OCI_HTYPE_DEFINE := by
  have hn := self.getColumnCount_neutral.ledger_eq_nil lib h
  rw [Statement.defineAllColumns] at ha ⊢
  rcases hc : self.getColumnCount lib h with ⟨n | e | s, w₁⟩ <;> rw [hc] at hn
  · rw [bind_of_ok hc] at ha ⊢
    obtain ⟨news, last, hl, ha₂, hr₂⟩ := self.defineColumns_aborted_ledger T 0 n [] lib (h ++ w₁) ha
    simp only [allocations_append, releases_append, hn.1, hn.2, ha₂, hr₂, List.nil_append]
    refine ⟨List.prefix_append _ _, by simp; omega, ?_⟩
    simp only [List.mem_append, List.mem_map]
    rintro _ (⟨f, -, rfl⟩ | ⟨x, -, rfl⟩) <;> rfl
  all_goals
    first | rw [bind_of_err hc] | rw [bind_of_panic hc]
    simp [hn.1, hn.2]

end Statement

theorem defineAllColumns_aborted_ledger_untyped :
    (sampleStatement.defineAllColumns ⟨SQLT_BFLOAT, SQLT_STR, id, fun _ => none⟩
        (columnsLib 2 ⟨SQLT_NUM, 10, 0, 0⟩) []).1.Aborts ∧
      releases (sampleStatement.defineAllColumns ⟨SQLT_BFLOAT, SQLT_STR, id, fun _ => none⟩
        (columnsLib 2 ⟨SQLT_NUM, 10, 0, 0⟩) []).2 <+:
        allocations (sampleStatement.defineAllColumns ⟨SQLT_BFLOAT, SQLT_STR, id, fun _ => none⟩
          (columnsLib 2 ⟨SQLT_NUM, 10, 0, 0⟩) []).2 ∧
      (allocations (sampleStatement.defineAllColumns ⟨SQLT_BFLOAT, SQLT_STR, id, fun _ => none⟩
          (columnsLib 2 ⟨SQLT_NUM, 10, 0, 0⟩) []).2).length ≤
        (releases (sampleStatement.defineAllColumns ⟨SQLT_BFLOAT, SQLT_STR, id, fun _ => none⟩
          (columnsLib 2 ⟨SQLT_NUM, 10, 0, 0⟩) []).2).length + 1 ∧
      ∀ p ∈ allocations (sampleStatement.defineAllColumns ⟨SQLT_BFLOAT, SQLT_STR, id,
          fun _ => none⟩ (columnsLib 2 ⟨SQLT_NUM, 10, 0, 0⟩) []).2, p.2 = OCI_HTYPE_DEFINE :=
  have ha : (sampleStatement.defineAllColumns (⟨SQLT_BFLOAT, SQLT_STR, id, fun _ => none⟩ :
      DataTypeOps Nat) (columnsLib 2 ⟨SQLT_NUM, 10, 0, 0⟩) []).1.Aborts := trivial
  ⟨ha, Statement.defineAllColumns_aborted_ledger _ _ _ _ ha⟩

end DieselOci

import DieselOci.Bind
import DieselOci.Columns

namespace DieselOci
set_option autoImplicit true

open Oci

/-- The error handle `check_error` is given for the status of a call. -/
def Call.checkedWith : Call → Option Nat
  | .stmtPrepare2 _ err _ _ => some err
  | .serverAttach _ err _ _ => some err
  | .sessionBegin _ err _ _ => some err
  | .stmtExecute _ _ err _ => some err
  | .attrGet _ _ _ err => some err
  | .paramGet _ _ err _ => some err
  | .defineByPos _ err _ _ _ _ _ => some err
  | .bindByPos _ err _ _ _ _ _ => some err
  | .stmtFetch2 _ err _ _ => some err
  | _ => none

/-- A status that `check_error` with the error handle `eh` rejects, after the history `h`. -/
def Rejected (lib : Lib) (h : List Entry) (eh : Nat) (s : Word) : Prop :=
  s = OCI_INVALID_HANDLE ∨ s = OCI_ERROR ∧ (lib h (errorGetCall eh)).status ≠ OCI_NO_DATA

/-- The `i`-th call of the run `w` from `h` failed in a way the driver detects. -/
def Fails (lib : Lib) (h w : List Entry) (i : Nat) : Prop :=
  ∃ e, w[i]? = some e ∧
    ((e.call = .envNlsCreate ∧ e.reply.status ≠ 0) ∨
      ∃ eh, e.call.checkedWith = some eh ∧ Rejected lib (h ++ w.take (i + 1)) eh e.reply.status)

def Call.IsTeardown : Call → Prop
  | .errorGet .. => True
  | .handleFree .. => True
  | _ => False

def Exit.EndsIn (P : α → Prop) : Exit ε α → Prop
  | .ok a => P a
  | _ => True

/-- The run of `m` from `h` ends early (its value, if any, satisfies `P`) and issues only teardown. -/
def EndsEarly (m : Oci ε α) (P : α → Prop) (lib : Lib) (h : List Entry) : Prop :=
  (m lib h).1.EndsIn P ∧ ∀ e ∈ (m lib h).2, e.call.IsTeardown

/-- After a call that fails, the run ends early and issues only teardown. -/
def StopsOnFailure (m : Oci ε α) (IsErr : α → Prop) : Prop :=
  ∀ lib h i, Fails lib h (m lib h).2 i →
    (m lib h).1.EndsIn IsErr ∧ ∀ j e, i < j → (m lib h).2[j]? = some e → e.call.IsTeardown

theorem Exit.Aborts.endsIn {e : Exit ε α} (he : e.Aborts) : e.EndsIn P := by
  cases e
  · exact he.elim
  all_goals trivial

theorem fails_cons_succ : Fails lib h (x :: w) (i + 1) ↔ Fails lib (h ++ [x]) w i := by
  simp only [Fails, List.getElem?_cons_succ, List.take_succ_cons, List.append_assoc,
    List.singleton_append]

theorem fails_append_left (hi : i < w₁.length) : Fails lib h (w₁ ++ w₂) i ↔ Fails lib h w₁ i := by
  simp only [Fails, List.getElem?_append_left hi, List.take_append_of_le_length (by omega : i + 1 ≤ w₁.length)]

theorem fails_append_right :
    Fails lib h (w₁ ++ w₂) (w₁.length + i) ↔ Fails lib (h ++ w₁) w₂ i := by
  simp only [Fails, List.getElem?_append_right (Nat.le_add_right _ _), Nat.add_sub_cancel_left,
    List.take_append_eq_append_take, List.take_of_length_le (by omega : w₁.length ≤ w₁.length + i + 1),
    List.append_assoc, show w₁.length + i + 1 - w₁.length = i + 1 by omega]

theorem fails_zero_cons : Fails lib h (x :: w) 0 ↔ Fails lib h [x] 0 := by
  simp only [Fails, List.getElem?_cons_zero, List.take_succ_cons, List.take_zero]

theorem fails_singleton : Fails lib h [⟨c, r⟩] 0 ↔ (c = .envNlsCreate ∧ r.status ≠ 0) ∨
    ∃ eh, c.checkedWith = some eh ∧ Rejected lib (h ++ [⟨c, r⟩]) eh r.status :=
  ⟨fun ⟨_, he, hf⟩ => by cases he; exact hf, fun hf => ⟨_, rfl, hf⟩⟩

theorem not_fails_of_status_zero (hw : w[i]? = some e) (h0 : e.reply.status = 0) :
    ¬ Fails lib h w i := by
  rintro ⟨e', he', hf⟩
  obtain rfl := Option.some.inj (hw.symm.trans he')
  rw [h0] at hf
  rcases hf with ⟨-, hs⟩ | ⟨-, -, hr | ⟨hr, -⟩⟩
  · exact hs rfl
  · exact absurd hr (by decide)
  · exact absurd hr (by decide)

theorem Call.IsTeardown.not_fails {c : Call} (hc : c.IsTeardown) :
    c ≠ .envNlsCreate ∧ c.checkedWith = none := by
  cases c <;> first | exact hc.elim | exact ⟨nofun, rfl⟩

theorem not_fails_of_teardown (hw : ∀ e ∈ w, e.call.IsTeardown) : ¬ Fails lib h w i := by
  rintro ⟨e, he, ⟨hc, -⟩ | ⟨eh, hc, -⟩⟩ <;>
    have := (hw e (List.getElem?_mem he)).not_fails <;> simp_all

theorem teardown_after_append {w₁ w₂ : List Entry} {i : Nat} (h₁ : ∀ j e, i < j → w₁[j]? = some e → e.call.IsTeardown)
    (h₂ : ∀ e ∈ w₂, e.call.IsTeardown) :
    ∀ j e, i < j → (w₁ ++ w₂)[j]? = some e → e.call.IsTeardown := by
  intro j e hj hx
  rcases Nat.lt_or_ge j w₁.length with hj' | hj'
  · exact h₁ j e hj (by rwa [List.getElem?_append_left hj'] at hx)
  · rw [List.getElem?_append_right hj'] at hx
    exact h₂ e (List.getElem?_mem hx)

theorem teardown_after_append_right {w₁ w₂ : List Entry} {i : Nat} (h₂ : ∀ j e, i < j → w₂[j]? = some e → e.call.IsTeardown) :
    ∀ j e, w₁.length + i < j → (w₁ ++ w₂)[j]? = some e → e.call.IsTeardown := by
  intro j e hj hx
  obtain ⟨j, rfl⟩ := Nat.exists_eq_add_of_le (by omega : w₁.length ≤ j)
  rw [List.getElem?_append_right (Nat.le_add_right _ _), Nat.add_sub_cancel_left] at hx
  exact h₂ j e (by omega) hx

theorem onAbort_snd_of_issues {m : Oci ε α} {d : Oci ε Unit} (hd : Issues P d) (lib : Lib)
    (h : List Entry) : ∃ w, (Oci.onAbort d m lib h).2 = (m lib h).2 ++ w ∧ ∀ e ∈ w, P e.call := by
  refine ⟨_, onAbort_snd d m lib h, ?_⟩
  split
  · nofun
  · exact hd _ _

theorem attempt_fst_endsIn {m : Oci ε α} {R : ε → Prop} (he : (m lib h).1.EndsIn fun _ => False)
    (hR : ∀ e, (m lib h).1 = .err e → R e) :
    (Oci.attempt m lib h : Exit ε' _ × _).1.EndsIn fun r => ∃ e, R e ∧ r = .error e := by
  revert he hR
  simp only [Oci.attempt]
  rcases m lib h with ⟨a | e | s, w⟩
  · exact fun he _ => he.elim
  · exact fun _ hR => ⟨e, hR e rfl, rfl⟩
  · exact fun _ _ => trivial

theorem mapErr_fst_endsIn {m : Oci ε α} (f : ε → ε') (he : (m lib h).1.EndsIn fun _ => False) :
    (Oci.mapErr f m lib h).1.EndsIn fun _ => False := by
  revert he
  simp only [Oci.mapErr]
  rcases m lib h with ⟨a | e | s, w⟩ <;> exact id

namespace EndsEarly

theorem pure {P : α → Prop} (hP : P a) : EndsEarly (Pure.pure a : Oci ε α) P lib h :=
  ⟨hP, fun _ he => by simp at he⟩

theorem throw (e : ε) : EndsEarly (Oci.throw e : Oci ε α) P lib h :=
  ⟨trivial, fun _ he => by simp at he⟩

theorem bind {m : Oci ε α} {k : α → Oci ε β} (hm : EndsEarly m Q lib h)
    (hk : ∀ a, Q a → EndsEarly (k a) P lib (h ++ (m lib h).2)) : EndsEarly (m >>= k) P lib h := by
  obtain ⟨he, ht⟩ := hm
  unfold EndsEarly
  rw [bind_apply, Oci.bind]
  revert he ht hk
  rcases m lib h with ⟨a | e | s, w⟩
  · intro hk he ht
    obtain ⟨he', ht'⟩ := hk a he
    exact ⟨he', fun x hx => (List.mem_append.1 hx).elim (ht x) (ht' x)⟩
  all_goals exact fun _ _ ht => ⟨trivial, ht⟩

theorem attempt {m : Oci ε α} {R : ε → Prop} (hm : EndsEarly m (fun _ => False) lib h)
    (hR : ∀ e, (m lib h).1 = .err e → R e) :
    EndsEarly (Oci.attempt m : Oci ε' _) (fun r => ∃ e, R e ∧ r = .error e) lib h :=
  ⟨attempt_fst_endsIn hm.1 hR, by rw [attempt_snd]; exact hm.2⟩

theorem mapErr {m : Oci ε α} (f : ε → ε') (hm : EndsEarly m (fun _ => False) lib h) :
    EndsEarly (Oci.mapErr f m) (fun _ => False) lib h :=
  ⟨mapErr_fst_endsIn f hm.1, by rw [mapErr_snd]; exact hm.2⟩

end EndsEarly

namespace StopsOnFailure

theorem ite {a b : Oci ε α} [Decidable c] (ha : StopsOnFailure a P) (hb : StopsOnFailure b P) :
    StopsOnFailure (if c then a else b) P := by
  split
  · exact ha
  · exact hb

theorem of_nil {m : Oci ε α} (hm : ∀ lib h, (m lib h).2 = []) : StopsOnFailure m P :=
  fun lib h i ⟨e, he, _⟩ => by simp [hm] at he

theorem pure (a : α) : StopsOnFailure (Pure.pure a : Oci ε α) P := of_nil fun _ _ => rfl

theorem throw (e : ε) : StopsOnFailure (Oci.throw e : Oci ε α) P := of_nil fun _ _ => rfl

theorem lift (x : Exit ε α) : StopsOnFailure (Oci.lift x) P := of_nil fun _ _ => rfl

theorem of_teardown {m : Oci ε α} (hm : Issues (fun c => c.IsTeardown) m) : StopsOnFailure m P :=
  fun lib h _ hf => (not_fails_of_teardown (hm lib h) hf).elim

theorem bindWith {m : Oci ε α} {k : α → Oci ε β} (hm : StopsOnFailure m Q)
    (hQ : ∀ a, Q a → ∀ lib h, EndsEarly (k a) P lib h)
    (hk : ∀ a, StopsOnFailure (k a) P) : StopsOnFailure (m >>= k) P := by
  intro lib h i hf
  generalize hr : (m >>= k) lib h = r at hf ⊢
  obtain ⟨e, w⟩ := r
  rcases bind_inv hr with ⟨a, w₁, w₂, h₁, h₂, rfl⟩ | ⟨ha, -, rfl⟩
  · by_cases hi : i < w₁.length
    · obtain ⟨hq, ht⟩ := hm lib h i (by rw [h₁]; exact (fails_append_left hi).1 hf)
      rw [h₁] at hq ht
      obtain ⟨he, ht'⟩ := hQ a hq lib (h ++ w₁)
      rw [h₂] at he ht'
      exact ⟨he, teardown_after_append ht ht'⟩
    · obtain ⟨i, rfl⟩ := Nat.exists_eq_add_of_le (Nat.not_lt.1 hi)
      obtain ⟨he, ht⟩ := hk a lib (h ++ w₁) i (by rw [h₂]; exact fails_append_right.1 hf)
      rw [h₂] at he ht
      exact ⟨he, teardown_after_append_right ht⟩
  · exact ⟨ha.endsIn, (hm lib h i hf).2⟩

theorem bind {m : Oci ε α} {k : α → Oci ε β} (hm : StopsOnFailure m fun _ => False)
    (hk : ∀ a, StopsOnFailure (k a) P) : StopsOnFailure (m >>= k) P :=
  hm.bindWith (fun _ h => h.elim) hk

theorem native {k : Reply → Oci ε β} (hk : ∀ r, StopsOnFailure (k r) P)
    (h0 : ∀ lib h, Fails lib h [⟨c, lib h c⟩] 0 →
      EndsEarly (k (lib h c)) P lib (h ++ [⟨c, lib h c⟩])) :
    StopsOnFailure (Oci.native c >>= k) P := by
  intro lib h i hf
  rw [native_bind] at hf ⊢
  dsimp only
  cases i with
  | zero =>
    obtain ⟨he, ht⟩ := h0 lib h (fails_zero_cons.1 hf)
    refine ⟨he, ?_⟩
    rintro (_ | j) e hj hx
    · omega
    · exact ht e (List.getElem?_mem (by rwa [List.getElem?_cons_succ] at hx))
  | succ i =>
    obtain ⟨he, ht⟩ := hk _ lib _ i (fails_cons_succ.1 hf)
    refine ⟨he, ?_⟩
    rintro (_ | j) e hj hx
    · omega
    · exact ht j e (by omega) (by rwa [List.getElem?_cons_succ] at hx)

theorem mapErr {m : Oci ε α} (f : ε → ε') (hm : StopsOnFailure m fun _ => False) :
    StopsOnFailure (Oci.mapErr f m) fun _ => False := by
  intro lib h i hf
  rw [mapErr_snd] at hf ⊢
  obtain ⟨he, ht⟩ := hm lib h i hf
  exact ⟨mapErr_fst_endsIn f he, ht⟩

theorem attempt {m : Oci ε α} {R : ε → Prop} (hm : StopsOnFailure m fun _ => False)
    (hR : ∀ lib h e, (m lib h).1 = .err e → R e) :
    StopsOnFailure (Oci.attempt m : Oci ε' _) fun r => ∃ e, R e ∧ r = .error e := by
  intro lib h i hf
  rw [attempt_snd] at hf ⊢
  obtain ⟨he, ht⟩ := hm lib h i hf
  exact ⟨attempt_fst_endsIn he (hR lib h), ht⟩

theorem onAbort {m : Oci ε α} {d : Oci ε Unit} (hm : StopsOnFailure m fun _ => False)
    (hd : Issues (fun c => c.IsTeardown) d) : StopsOnFailure (Oci.onAbort d m) fun _ => False := by
  intro lib h i hf
  obtain ⟨w, hw, hdw⟩ := onAbort_snd_of_issues (m := m) hd lib h
  rw [onAbort_fst]
  rw [hw] at hf ⊢
  by_cases hi : i < (m lib h).2.length
  · obtain ⟨he, ht⟩ := hm lib h i ((fails_append_left hi).1 hf)
    exact ⟨he, teardown_after_append ht hdw⟩
  · obtain ⟨i, rfl⟩ := Nat.exists_eq_add_of_le (Nat.not_lt.1 hi)
    exact (not_fails_of_teardown hdw (fails_append_right.1 hf)).elim

end StopsOnFailure

/-- The check after a native call: on a status that `check_error` rejects it ends early. -/
structure Checks (eh : Nat) (a : Reply → Oci ε α) : Prop where
  stops : ∀ r, StopsOnFailure (a r) fun _ => False
  rejects : ∀ r lib h, Rejected lib h eh r.status → EndsEarly (a r) (fun _ => False) lib h

theorem checkError_teardown : Issues (fun c => c.IsTeardown) (checkError eh s) :=
  (checkError_issues eh s).mono fun _ hc => hc ▸ trivial

theorem diagnose_aborts (hs : res.status ≠ OCI_NO_DATA) : (diagnose res).Aborts := by
  rw [diagnose, if_neg hs]
  split
  · trivial
  · split <;> trivial

theorem checkError_checks : Checks eh fun r => checkError eh r.status := by
  refine ⟨fun r => .of_teardown checkError_teardown, fun r lib h hs => ⟨?_, checkError_teardown lib h⟩⟩
  rw [checkError_apply]
  rcases hs with hs | ⟨hs, hne⟩
  · rw [if_neg (by rw [hs]; decide), if_pos hs]
    trivial
  · rw [if_pos hs]
    exact (diagnose_aborts hne).endsIn

theorem checkError_of_not_rejected (hs : ¬ Rejected lib h eh s) :
    (checkError eh s lib h).1 = .ok () := by
  simp only [Rejected, not_or, not_and, not_not] at hs
  rw [checkError_apply]
  split_ifs with he hi
  · rw [diagnose, if_pos (hs.2 he)]
  · exact absurd hi hs.1
  · rfl

theorem Checks.mapErr (f : ε → ε') (hc : Checks eh a) : Checks eh fun r => Oci.mapErr f (a r) :=
  ⟨fun r => (hc.stops r).mapErr f, fun r lib h hs => (hc.rejects r lib h hs).mapErr f⟩

theorem Checks.bind {k : Reply → α → Oci ε β} (hc : Checks eh a)
    (hk : ∀ r x, StopsOnFailure (k r x) fun _ => False) : Checks eh fun r => a r >>= k r :=
  ⟨fun r => .bind (hc.stops r) (hk r), fun r lib h hs => (hc.rejects r lib h hs).bind fun _ h => h.elim⟩

theorem StopsOnFailure.native_rejected {k : Reply → Oci ε β} (hc : c.checkedWith = some eh)
    (hk : ∀ r, StopsOnFailure (k r) P)
    (hrej : ∀ r lib h, Rejected lib h eh r.status → EndsEarly (k r) P lib h) :
    StopsOnFailure (Oci.native c >>= k) P := by
  refine .native hk fun lib h hf => ?_
  rcases fails_singleton.1 hf with ⟨rfl, -⟩ | ⟨eh', hc', hr⟩
  · cases hc
  · obtain rfl : eh' = eh := Option.some.inj (hc'.symm.trans hc)
    exact hrej _ _ _ hr

theorem StopsOnFailure.native_check {a : Reply → Oci ε α} {k : Reply → Oci ε β}
    (hc : c.checkedWith = some eh) (hchk : Checks eh a) (hk : ∀ r, StopsOnFailure (k r) P) :
    StopsOnFailure (Oci.native c >>= fun r => a r >>= fun _ => k r) P :=
  .native_rejected hc (fun r => .bind (hchk.stops r) fun _ => hk r)
    fun r lib h hr => (hchk.rejects r lib h hr).bind fun _ h => h.elim

theorem StopsOnFailure.native_check_last {a : Reply → Oci ε α} (hc : c.checkedWith = some eh)
    (hchk : Checks eh a) : StopsOnFailure (Oci.native c >>= a) fun _ => False :=
  .native_rejected hc hchk.stops hchk.rejects

theorem StopsOnFailure.native_unchecked {k : Reply → Oci ε β} (hc : c.checkedWith = none)
    (hn : c ≠ .envNlsCreate) (hk : ∀ r, StopsOnFailure (k r) P) :
    StopsOnFailure (Oci.native c >>= k) P := by
  refine .native hk fun lib h hf => ?_
  obtain ⟨e, he, ⟨hn', -⟩ | ⟨eh', hc', -⟩⟩ := hf
  all_goals cases he
  · exact (hn hn').elim
  · simp_all

theorem StopsOnFailure.native_attempt {a : Reply → Oci ε α} {k : Reply → Except ε α → Oci ε' β}
    {R : ε → Prop} (hc : c.checkedWith = some eh) (hchk : Checks eh a)
    (hR : ∀ r lib h e, (a r lib h).1 = .err e → R e)
    (hQ : ∀ r e, R e → ∀ lib h, EndsEarly (k r (.error e)) P lib h)
    (hk : ∀ r x, StopsOnFailure (k r x) P) :
    StopsOnFailure (Oci.native c >>= fun r => Oci.attempt (a r) >>= k r) P :=
  .native_rejected hc
    (fun r => ((hchk.stops r).attempt (hR r)).bindWith (fun _ ⟨e, he, hx⟩ => hx ▸ hQ r e he) (hk r))
    fun r lib h hr => ((hchk.rejects r lib h hr).attempt (hR r lib h)).bind
      fun _ ⟨e, he, hx⟩ => hx ▸ hQ r e he _ _

theorem allocHandle_stopsOnFailure : StopsOnFailure (allocHandle env htype : Oci ε Nat) fun _ => False :=
  .native_unchecked (by rfl) (by simp) fun _ => .pure _

theorem new_stopsOnFailure : StopsOnFailure ConnectionEnviroment.new fun _ => False := by
  refine .native (fun r => ?_) fun lib h hf => ?_
  · dsimp only
    split_ifs
    · exact .bind (.throw _) fun _ => .bind allocHandle_stopsOnFailure fun _ =>
        .native_unchecked (by rfl) (by simp) fun _ => .pure _
    · exact .bind (.pure _) fun _ => .bind allocHandle_stopsOnFailure fun _ =>
        .native_unchecked (by rfl) (by simp) fun _ => .pure _
  · rcases fails_singleton.1 hf with ⟨-, hs⟩ | ⟨eh, hc, -⟩
    · dsimp only
      rw [if_pos hs, throw_bind]
      exact .throw _
    · cases hc

theorem ConnectionEnviroment.drop_teardown (env : ConnectionEnviroment) :
    Issues (fun c => c.IsTeardown) (env.drop : Oci ε Unit) :=
  .bind (.native trivial) fun _ => .bind (.native trivial) fun _ => .pure _

theorem establish_stopsOnFailure (url : String) :
    StopsOnFailure (RawConnection.establish url) fun _ => False := by
  refine .bind (.lift _) fun ⟨u, p, d⟩ => .bind new_stopsOnFailure fun env =>
    .onAbort ?_ env.drop_teardown
  refine .bind allocHandle_stopsOnFailure fun _ => .bind allocHandle_stopsOnFailure fun _ =>
    .bind allocHandle_stopsOnFailure fun _ => .bind allocHandle_stopsOnFailure fun _ => ?_
  refine .native_check (by rfl) (checkError_checks.mapErr _) fun _ => ?_
  refine .native_unchecked (by rfl) (by simp) fun _ => .native_unchecked (by rfl) (by simp) fun _ =>
    .native_unchecked (by rfl) (by simp) fun _ => ?_
  refine .native_check (by rfl) (checkError_checks.mapErr _) fun _ => ?_
  exact .native_unchecked (by rfl) (by simp) fun _ => .native_unchecked (by rfl) (by simp) fun _ =>
    .pure _

theorem prepare_stopsOnFailure (conn : RawConnection) (sql : String) :
    StopsOnFailure (Statement.prepare conn sql) fun _ => False := by
  refine .native_check (by rfl) checkError_checks fun r => ?_
  dsimp only
  split
  · split_ifs
    · exact .native_check (by rfl) checkError_checks fun _ => .bind (.pure _) fun _ => .pure _
    · exact .bind (.pure _) fun _ => .pure _
  · exact .bind (.pure _) fun _ => .pure _

namespace Statement

variable (self : Statement)

theorem run_stopsOnFailure : StopsOnFailure self.run fun _ => False :=
  .native_check_last (by rfl) checkError_checks

theorem getAffectedRows_stopsOnFailure : StopsOnFailure self.getAffectedRows fun _ => False :=
  .native_check (by rfl) checkError_checks fun _ => .pure _

theorem getColumnCount_stopsOnFailure : StopsOnFailure self.getColumnCount fun _ => False :=
  .native_check (by rfl) checkError_checks fun _ => .pure _

theorem paramAttr_stopsOnFailure : StopsOnFailure (self.paramAttr col attr) fun _ => False :=
  .native_check (by rfl) checkError_checks fun _ => .pure _

theorem getAttrTypeAndSize_stopsOnFailure :
    StopsOnFailure (self.getAttrTypeAndSize col) fun _ => False := by
  exact .bind self.paramAttr_stopsOnFailure fun _ => .ite (.pure _) <| .ite
    (.bind self.paramAttr_stopsOnFailure fun _ => .bind self.paramAttr_stopsOnFailure fun _ =>
      .ite (.pure _) (.pure _)) <| .ite (.pure _) <| .ite (.pure _) <|
    .ite (.bind self.paramAttr_stopsOnFailure fun _ => .pure _) (.throw _)

variable (T : DataTypeOps τ)

theorem define_stopsOnFailure : StopsOnFailure (self.define T fields tpe size pos) fun _ => False := by
  refine .native_check (by rfl) checkError_checks fun _ => ?_
  split
  · exact .pure _
  · exact .throw _

theorem defineColumn_stopsOnFailure :
    StopsOnFailure (self.defineColumn T fields pos) fun _ => False :=
  .native_check (by rfl) checkError_checks fun _ =>
    .bind self.getAttrTypeAndSize_stopsOnFailure fun _ => self.define_stopsOnFailure T

theorem dropFields_teardown (fields : List (Field τ)) :
    Issues (fun c => c.IsTeardown) (dropFields fields : Oci ε Unit) :=
  (dropFields_issues fields).mono fun _ ⟨_, hc⟩ => hc ▸ trivial

theorem defineColumns_stopsOnFailure (i n : Nat) (fields : List (Field τ)) :
    StopsOnFailure (self.defineColumns T i n fields) fun _ => False := by
  induction n generalizing i fields with
  | zero => exact .pure _
  | succ n ih =>
    exact .bind (.onAbort (self.defineColumn_stopsOnFailure T) (dropFields_teardown _)) fun _ =>
      ih _ _

theorem runWithCursor_stopsOnFailure : StopsOnFailure (self.runWithCursor T) fun _ => False :=
  .bind self.run_stopsOnFailure fun _ => .bind (.bind self.getColumnCount_stopsOnFailure fun _ =>
    self.defineColumns_stopsOnFailure T _ _ _) fun _ => .pure _

end Statement

theorem next_stopsOnFailure (decode : List (List UInt8 × Bool) → Except String α) (c : Cursor τ) :
    StopsOnFailure (c.next decode) fun r =>
      r.1.currentRow = c.currentRow ∧ ∃ e, (∃ k m, e = .databaseError k m) ∧ r.2 = some (.error e) := by
  refine .native_attempt (by rfl) checkError_checks (fun _ _ _ _ he => checkError_err he)
    (fun _ e he _ _ => .pure ⟨rfl, e, he, rfl⟩) fun _ x => ?_
  rcases x with e | ⟨⟩
  · exact .pure _
  · dsimp only
    split_ifs <;> exact .bind (.pure _) fun _ => .pure _

theorem bind_stopsOnFailure [DecidableEq τ] (T : DataTypeOps τ) (self : Statement) (tpe : τ)
    (value : Option (List UInt8)) :
    StopsOnFailure (self.bind T tpe value) fun r => ∃ e, r.2 = .error e := by
  dsimp only [Statement.bind]
  refine .native_attempt (R := fun _ => True) (by rfl) (checkError_checks.bind fun r _ => ?_)
    (fun _ _ _ _ _ => trivial) (fun _ e _ _ _ => .pure ⟨e, rfl⟩) fun _ _ => .pure _
  split_ifs
  · exact .native_unchecked (by rfl) (by simp) fun _ => .pure _
  · exact .pure _

/-- The fail-stop law of the driver. -/
theorem operations_stop_on_failure {α : Type} [DecidableEq τ] (T : DataTypeOps τ) :
    (∀ eh s lib h, Rejected lib h eh s → EndsEarly (checkError eh s) (fun _ => False) lib h) ∧
    StopsOnFailure ConnectionEnviroment.new (fun _ => False) ∧
    (∀ url, StopsOnFailure (RawConnection.establish url) fun _ => False) ∧
    (∀ conn sql, StopsOnFailure (Statement.prepare conn sql) fun _ => False) ∧
    (∀ (self : Statement) tpe value,
      StopsOnFailure (self.bind T tpe value) fun r => ∃ e, r.2 = .error e) ∧
    (∀ self : Statement, StopsOnFailure self.run fun _ => False) ∧
    (∀ self : Statement, StopsOnFailure self.getAffectedRows fun _ => False) ∧
    (∀ self : Statement, StopsOnFailure (self.runWithCursor T) fun _ => False) ∧
    ∀ (decode : List (List UInt8 × Bool) → Except String α) (c : Cursor τ),
      StopsOnFailure (c.next decode) fun r => r.1.currentRow = c.currentRow ∧
        ∃ e, (∃ k m, e = .databaseError k m) ∧ r.2 = some (.error e) :=
  ⟨fun _ s => checkError_checks.rejects { status := s }, new_stopsOnFailure, establish_stopsOnFailure,
    prepare_stopsOnFailure, bind_stopsOnFailure T, Statement.run_stopsOnFailure,
    Statement.getAffectedRows_stopsOnFailure, (Statement.runWithCursor_stopsOnFailure · T),
    next_stopsOnFailure⟩

/-- Failures the driver does not see. -/
theorem failures_pass_unseen :
    (sampleStatement.run noRecordLib []).1 = .ok () ∧
    (RawConnection.establish "oci://u/p@//db" (fun _ _ => {}) []).1 =
      .ok ⟨⟨0, 0, 0⟩, 0, 0, 0, 0⟩ := by
  decide

end DieselOci

import DieselOci.Live

namespace DieselOci
set_option autoImplicit true

open Oci
open scoped List

/-- A call a caller makes; statements and cursors are named by their slots. -/
inductive Op (τ α : Type) where
  | prepare (sql : String)
  | bind (stmt : Nat) (tpe : τ) (value : Option (List UInt8))
  | run (stmt : Nat)
  | getAffectedRows (stmt : Nat)
  | runWithCursor (stmt : Nat)
  | next (cursor : Nat) (decode : List (List UInt8 × Bool) → Except String α)
  | dropCursor (cursor : Nat)
  | dropStatement (stmt : Nat)

/-- What a caller owns; a cursor with the slot of the statement it borrows. -/
structure Client (τ : Type) where
  conn : RawConnection
  stmts : List (Option Statement)
  cursors : List (Option (Nat × Cursor τ))

def Client.borrowed (σ : Client τ) (i : Nat) : Bool :=
  σ.cursors.any fun o => o.any (·.1 == i)

/-- Drop glue; a drop that panics while a panic unwinds aborts the process. -/
def dropThen (drop : β → Oci ε Unit) (rest : Bool → Oci ε Unit) : List β → Bool → Oci ε Unit
  | [], unwinding => rest unwinding
  | x :: xs, false => do
    unwindWith (dropThen drop rest xs true) (drop x)
    dropThen drop rest xs false
  | x :: xs, true => do
    abortOnPanic (drop x)
    dropThen drop rest xs true

def dropIn (d : Oci ε Unit) : Bool → Oci ε Unit
  | false => d
  | true => abortOnPanic d

/-- The drop of what the caller owns, at the end of its scope or while a panic unwinds. -/
def Client.dropAll (σ : Client τ) : Bool → Oci Error Unit :=
  dropThen (fun p : Nat × Cursor τ => p.2.drop)
    (dropThen Statement.drop (dropIn σ.conn.drop) (σ.stmts.filterMap id)) (σ.cursors.filterMap id)

/-- What the caller owns while a call runs: a value being dropped is no longer owned. -/
def Client.release (σ : Client τ) : Op τ α → Client τ
  | .dropCursor j => { σ with cursors := σ.cursors.set j none }
  | .dropStatement i => if σ.borrowed i then σ else { σ with stmts := σ.stmts.set i none }
  | _ => σ

section Calls

variable (T : DataTypeOps τ) [DecidableEq τ]

/-- One call of the caller; a call the borrow checker rejects, or on an empty slot, does nothing. -/
def Client.call (σ : Client τ) : Op τ α → Oci Error (Client τ)
  | .prepare sql => do
    match ← attempt (Statement.prepare σ.conn sql) with
    | .ok s => return { σ with stmts := σ.stmts ++ [some s] }
    | .error _ => return σ
  | .bind i tpe value =>
    match σ.stmts[i]? with
    | some (some s) =>
      if σ.borrowed i then pure σ else do
        let (s, _) ← s.bind T tpe value
        return { σ with stmts := σ.stmts.set i (some s) }
    | _ => pure σ
  | .run i =>
    match σ.stmts[i]? with
    | some (some s) => do
      let _ ← (attempt s.run : Oci Error _)
      return σ
    | _ => pure σ
  | .getAffectedRows i =>
    match σ.stmts[i]? with
    | some (some s) => do
      let _ ← (attempt s.getAffectedRows : Oci Error _)
      return σ
    | _ => pure σ
  | .runWithCursor i =>
    match σ.stmts[i]? with
    | some (some s) => do
      match ← attempt (s.runWithCursor T) with
      | .ok c => return { σ with cursors := σ.cursors ++ [some (i, c)] }
      | .error _ => return σ
    | _ => pure σ
  | .next j decode =>
    match σ.cursors[j]? with
    | some (some (i, c)) => do
      let (c, _) ← c.next decode
      return { σ with cursors := σ.cursors.set j (some (i, c)) }
    | _ => pure σ
  | .dropCursor j => do
    match σ.cursors[j]? with
    | some (some (_, c)) => c.drop
    | _ => pure ()
    return σ.release (.dropCursor j : Op τ α)
  | .dropStatement i => do
    match σ.stmts[i]?, σ.borrowed i with
    | some (some s), false => s.drop
    | _, _ => pure ()
    return σ.release (.dropStatement i : Op τ α)

/-- A call, and the unwinding of a panic in it. -/
def Client.step (σ : Client τ) (op : Op τ α) : Oci Error (Client τ) :=
  unwindWith ((σ.release op).dropAll true) (σ.call T op)

def Client.run (σ : Client τ) : List (Op τ α) → Oci Error (Client τ)
  | [] => pure σ
  | op :: ops => do
    let σ ← σ.step T op
    σ.run ops

/-- A caller's whole use of the driver. -/
def session (url : String) (ops : List (Op τ α)) : Oci (ConnectionError ⊕ Error) Unit := do
  let conn ← mapErr .inl (RawConnection.establish url)
  let σ ← mapErr .inr (Client.run T ⟨conn, [], []⟩ ops)
  mapErr .inr (σ.dropAll false)

end Calls

def slotHandles (f : β → List Nat) (l : List (Option β)) : List Nat := (l.filterMap id).flatMap f

section Slots

variable {f : β → List Nat}

@[simp] theorem slotHandles_nil : slotHandles f [] = [] := rfl

@[simp] theorem slotHandles_cons_none (l : List (Option β)) :
    slotHandles f (none :: l) = slotHandles f l := rfl

@[simp] theorem slotHandles_cons_some (l : List (Option β)) :
    slotHandles f (some b :: l) = f b ++ slotHandles f l := rfl

@[simp] theorem slotHandles_append (l l' : List (Option β)) :
    slotHandles f (l ++ l') = slotHandles f l ++ slotHandles f l' := by
  simp [slotHandles, List.filterMap_append]

theorem slotHandles_set_none_of : ∀ (l : List (Option β)) (j : Nat), (∀ b, l[j]? ≠ some (some b)) →
    slotHandles f (l.set j none) = slotHandles f l
  | [], _, _ => rfl
  | none :: _, 0, _ => rfl
  | some b :: _, 0, h => (h b (by simp)).elim
  | o :: l, j + 1, h => by
    have ih := slotHandles_set_none_of l j (by simpa using h)
    cases o <;> simp [ih]

theorem slotHandles_perm_of_getElem? : ∀ (l : List (Option β)) (j : Nat), l[j]? = some (some b) →
    (slotHandles f l).Perm (f b ++ slotHandles f (l.set j none))
  | none :: _, 0, h => by simp at h
  | some _ :: _, 0, h => by
    simp only [List.getElem?_cons_zero, Option.some.injEq] at h
    simp [h]
  | o :: l, j + 1, h => by
    have ih := slotHandles_perm_of_getElem? l j (by simpa using h)
    cases o
    · simpa using ih
    · simpa using (ih.append_left _).trans (List.perm_append_comm_assoc _ _ _)

theorem slotHandles_set_perm {l : List (Option β)} (hj : j < l.length) :
    (slotHandles f (l.set j (some b))).Perm (f b ++ slotHandles f (l.set j none)) := by
  simpa [List.set_set] using slotHandles_perm_of_getElem? (f := f) _ j (List.getElem?_set_self hj)

theorem subset_slotHandles {l : List (Option β)} {j : Nat} (h : l[j]? = some (some b)) :
    f b ⊆ slotHandles f l :=
  fun _ hx => (slotHandles_perm_of_getElem? l j h).symm.subset (List.mem_append_left _ hx)

end Slots

/-- The handles a caller owns, in the order the end of its scope drops them. -/
def Client.handles (σ : Client τ) : List Nat :=
  slotHandles (fun p : Nat × Cursor τ => p.2.results.map Field.inner) σ.cursors ++
    (slotHandles (fun s => [s.innerStatement]) σ.stmts ++ σ.conn.dropOrder)

/-- What the caller's slots hold: statements of its connection, cursors over held statements. -/
structure Client.WF (σ : Client τ) : Prop where
  stmt_conn : ∀ s, some s ∈ σ.stmts → s.connection = σ.conn
  cursor_stmt : ∀ i c, some (i, c) ∈ σ.cursors → ∃ s, σ.stmts[i]? = some (some s) ∧
    c.stmt.innerStatement = s.innerStatement ∧ c.stmt.connection = σ.conn

theorem dropThen_live {H : β → List Nat} {drop : β → Oci ε Unit} {rest : Bool → Oci ε Unit}
    (hd : ∀ x ∈ xs, ∀ ys, Live (H x ++ (ys ++ L)) (drop x) (fun _ => ys ++ L) (ys ++ L))
    (hr : ∀ u, Live L (rest u) (fun _ => []) []) (u : Bool) :
    Live (xs.flatMap H ++ L) (dropThen drop rest xs u) (fun _ => []) [] := by
  induction xs generalizing u with
  | nil => exact hr u
  | cons x xs ih =>
    have ih' := ih fun y hy => hd y (List.mem_cons_of_mem _ hy)
    have hx := hd x (List.mem_cons_self _ _) (xs.flatMap H)
    rw [List.flatMap_cons, List.append_assoc]
    cases u
    · exact .bind (.unwindWith hx (ih' true)) fun _ => ih' false
    · exact .bind (.abortOnPanic (hx.weaken (fun _ => .refl _) (List.nil_subperm))) fun _ => ih' true

theorem dropIn_live {d : Oci ε Unit} (hd : Live need d (fun _ => []) []) (u : Bool) :
    Live need (dropIn d u) (fun _ => []) [] := by
  cases u
  · exact hd
  · exact .abortOnPanic hd

theorem Client.WF.errorHandle_mem {σ : Client τ} {s : Statement} (hwf : σ.WF)
    (hs : s ∈ σ.stmts.filterMap id) :
    s.errorHandle ∈ l ++ σ.conn.dropOrder := by
  obtain ⟨_, ho, he⟩ := List.mem_filterMap.1 hs
  cases he
  simp [Statement.errorHandle, RawConnection.dropOrder, hwf.stmt_conn s ho]

theorem Client.dropAll_live (σ : Client τ) (hwf : σ.WF) (u : Bool) :
    Live σ.handles (σ.dropAll u) (fun _ => []) [] :=
  dropThen_live (fun p _ _ => dropFields_live p.2.results)
    (dropThen_live (fun s hs _ => stmtDrop_live s (hwf.errorHandle_mem hs) (.refl _))
      (dropIn_live (connDrop_live σ.conn))) u

theorem Client.mem_handles_of_conn {σ : Client τ} (h : x ∈ σ.conn.dropOrder) : x ∈ σ.handles := by
  simp [Client.handles, h]

theorem Client.conn_mem (σ : Client τ) :
    σ.conn.serviceHandle ∈ σ.handles ∧ σ.conn.env.errorHandle ∈ σ.handles :=
  ⟨Client.mem_handles_of_conn (by simp [RawConnection.dropOrder]),
    Client.mem_handles_of_conn (by simp [RawConnection.dropOrder])⟩

theorem Client.WF.stmt_mem {σ : Client τ} {i : Nat} {s : Statement} (hwf : σ.WF)
    (hs : σ.stmts[i]? = some (some s)) : s.connection = σ.conn ∧ s.innerStatement ∈ σ.handles ∧
      s.errorHandle ∈ σ.handles ∧ s.connection.serviceHandle ∈ σ.handles := by
  have hc := hwf.stmt_conn s (List.getElem?_mem hs)
  have := subset_slotHandles (f := fun s : Statement => [s.innerStatement]) hs
    (List.mem_singleton_self _)
  rw [Statement.errorHandle, hc]
  exact ⟨rfl, by simp [Client.handles, this], σ.conn_mem.2, σ.conn_mem.1⟩

theorem Client.not_borrowed {σ : Client τ} (hb : σ.borrowed i = false)
    (hc : some (i', c) ∈ σ.cursors) : i' ≠ i := by
  simp only [Client.borrowed, List.any_eq_false] at hb
  rintro rfl
  exact hb _ hc (by simp)

theorem Client.release_wf {σ : Client τ} (hwf : σ.WF) (op : Op τ α) : (σ.release op).WF := by
  cases op <;> dsimp only [Client.release]
  case dropCursor j =>
    exact ⟨hwf.stmt_conn, fun i c hc =>
      hwf.cursor_stmt i c ((List.mem_or_eq_of_mem_set hc).resolve_right (by simp))⟩
  case dropStatement i =>
    split
    · exact hwf
    · next hb =>
      refine ⟨fun s hs => hwf.stmt_conn s ((List.mem_or_eq_of_mem_set hs).resolve_right (by simp)),
        fun i' c hc => ?_⟩
      obtain ⟨s, hs, h₁, h₂⟩ := hwf.cursor_stmt i' c hc
      refine ⟨s, ?_, h₁, h₂⟩
      rw [List.getElem?_set_ne (Client.not_borrowed (by simpa using hb) hc).symm]
      exact hs
  all_goals exact hwf

section Runs

variable (T : DataTypeOps τ) [DecidableEq τ]

theorem Client.call_live (σ : Client τ) (hwf : σ.WF) (op : Op τ α) :
    Live σ.handles (σ.call T op) (fun σ' => σ'.handles) (σ.release op).handles := by
  obtain ⟨hv, he⟩ := σ.conn_mem
  cases op with
  | prepare sql =>
    refine .bind (.attempt (prepare_live hv he (.refl _)) (.refl _)) fun x => ?_
    cases x
    · exact .pure (.refl _)
    · exact .pure (List.perm_iff_count.2 fun a => by
        simp only [Client.handles, slotHandles_append, slotHandles_cons_some, slotHandles_nil,
          List.count_append, List.count_nil, List.append_nil]; omega).subperm
  | bind i tpe value =>
    dsimp only [Client.call]
    split
    · next s hs =>
      obtain ⟨-, hm, he, -⟩ := hwf.stmt_mem hs
      refine .ite (.pure (.refl _)) (.bindWith (bind_live T s hm he (.refl _)) (bind_bound T s)
        fun p hp => .pure ?_)
      have hi := (List.getElem?_eq_some_iff.1 hs).1
      refine ((((slotHandles_set_perm hi).trans ?_).append_right _).append_left _).subperm
      rw [hp]
      exact (slotHandles_perm_of_getElem? (f := fun s : Statement => [s.innerStatement]) _ _ hs).symm
    · exact .pure (.refl _)
  | run i =>
    dsimp only [Client.call]
    split
    · next s hs =>
      obtain ⟨-, hm, he, hv⟩ := hwf.stmt_mem hs
      exact .bind (.attempt_const (run_live s hv hm he (.refl _)) (.refl _)) fun _ =>
        .pure (.refl _)
    · exact .pure (.refl _)
  | getAffectedRows i =>
    dsimp only [Client.call]
    split
    · next s hs =>
      obtain ⟨-, hm, he, -⟩ := hwf.stmt_mem hs
      exact .bind (.attempt_const (getAffectedRows_live s hm he (.refl _)) (.refl _)) fun _ =>
        .pure (.refl _)
    · exact .pure (.refl _)
  | runWithCursor i =>
    dsimp only [Client.call]
    split
    · next s hs =>
      obtain ⟨-, hm, he, hv⟩ := hwf.stmt_mem hs
      refine .bind (.attempt (runWithCursor_live T s hv hm he (.refl _)) (.refl _))
        fun x => ?_
      cases x
      · exact .pure (.refl _)
      · exact .pure (List.perm_iff_count.2 fun a => by
          simp only [Client.handles, slotHandles_append, slotHandles_cons_some, slotHandles_nil,
            List.count_append, List.count_nil, List.append_nil]; omega).subperm
    · exact .pure (.refl _)
  | next j decode =>
    dsimp only [Client.call]
    split
    · next i c hc =>
      obtain ⟨s, hs, hin, hcc⟩ := hwf.cursor_stmt i c (List.getElem?_mem hc)
      have hp := slotHandles_perm_of_getElem? (f := fun p : Nat × Cursor τ => p.2.results.map Field.inner) _ _ hc
      let L := slotHandles (fun p : Nat × Cursor τ => p.2.results.map Field.inner)
        (σ.cursors.set j none) ++ (slotHandles (fun s => [s.innerStatement]) σ.stmts ++ σ.conn.dropOrder)
      have hperm : σ.handles.Perm (L ++ c.results.map Field.inner) :=
        (hp.append_right _).trans (by rw [List.append_assoc]; exact List.perm_append_comm)
      have hs' : c.stmt.innerStatement ∈ L := List.mem_append_right _ (List.mem_append_left _
        (subset_slotHandles (f := fun s : Statement => [s.innerStatement]) hs (by simp [hin])))
      have he' : c.stmt.errorHandle ∈ L := List.mem_append_right _ (List.mem_append_right _
        (by simp [Statement.errorHandle, hcc, RawConnection.dropOrder]))
      refine .bindWith ((next_live c decode hs' he' hperm.subperm).mono hperm.symm.subperm)
        (next_stmt c decode) fun ⟨c', r⟩ _ => .pure ?_
      have hj := (List.getElem?_eq_some_iff.1 hc).1
      refine (((slotHandles_set_perm hj).append_right _).trans ?_).subperm
      rw [List.append_assoc]
      exact List.perm_append_comm
    · exact .pure (.refl _)
  | dropCursor j =>
    dsimp only [Client.call]
    split
    · next i c hc =>
      have hp := slotHandles_perm_of_getElem? (f := fun p : Nat × Cursor τ => p.2.results.map Field.inner) _ _ hc
      refine .bind ((dropFields_live c.results).mono ?_) fun _ => .pure (.refl _)
      rw [Client.handles, ← List.append_assoc]
      exact (hp.append_right _).symm.subperm
    · next hnone =>
      rw [Oci.pure_bind]
      refine .pure ?_
      rw [Client.release, Client.handles, Client.handles,
        slotHandles_set_none_of _ _ fun ⟨a, c⟩ h => hnone a c h]
  | dropStatement i =>
    dsimp only [Client.call]
    split
    · next s hs hb =>
      obtain ⟨hc, -, -, -⟩ := hwf.stmt_mem hs
      have hp := List.perm_iff_count.1
        (slotHandles_perm_of_getElem? (f := fun s : Statement => [s.innerStatement]) _ _ hs)
      simp only [Client.release, hb, Bool.false_eq_true, if_false]
      refine .bind ((stmtDrop_live s (Client.mem_handles_of_conn (by simp [Statement.errorHandle, hc,
        RawConnection.dropOrder])) (.refl _)).mono (List.perm_iff_count.2 fun a => ?_).subperm) fun _ =>
        .pure (.refl _)
      have := hp a
      simp only [Client.handles, List.count_append, List.count_cons, List.count_nil] at this ⊢
      omega
    · next hnone =>
      rw [Oci.pure_bind]
      refine .pure ?_
      cases hb : σ.borrowed i
      · rw [Client.release, hb, if_neg Bool.false_ne_true, Client.handles, Client.handles,
          slotHandles_set_none_of _ _ fun s h => hnone s h hb]
      · rw [Client.release, hb, if_pos rfl]

theorem Client.call_wf (σ : Client τ) (hwf : σ.WF) (op : Op τ α) :
    Returns (fun σ' _ => σ'.WF) (σ.call T op) := by
  cases op with
  | prepare sql =>
    refine .bind prepare_connection.attempt fun x _ hx => ?_
    cases x
    · exact .pure hwf
    · next s =>
      refine .pure ⟨fun s' hs' => ?_, fun i c hc => ?_⟩
      · rcases List.mem_append.1 hs' with h | h
        · exact hwf.stmt_conn s' h
        · obtain rfl : s' = s := by simpa using h
          exact hx s' rfl
      · obtain ⟨s', hs', h₁, h₂⟩ := hwf.cursor_stmt i c hc
        refine ⟨s', ?_, h₁, h₂⟩
        rw [List.getElem?_append_left (List.getElem?_eq_some_iff.1 hs').1]
        exact hs'
  | bind i tpe value =>
    dsimp only [Client.call]
    split
    · next s hs =>
      split
      · exact .pure hwf
      · next hb =>
        refine .bind (bind_bound T s) fun ⟨s', r⟩ _ hp => .pure ⟨fun s'' hs'' => ?_, fun i' c hc => ?_⟩
        · rcases List.mem_or_eq_of_mem_set hs'' with h | h
          · exact hwf.stmt_conn s'' h
          · cases h
            rw [hp]
            exact hwf.stmt_conn s (List.getElem?_mem hs)
        · obtain ⟨s₁, hs₁, h₁, h₂⟩ := hwf.cursor_stmt i' c hc
          refine ⟨s₁, ?_, h₁, h₂⟩
          rw [List.getElem?_set_ne (Client.not_borrowed (by simpa using hb) hc).symm]
          exact hs₁
    · exact .pure hwf
  | run i | getAffectedRows i =>
    dsimp only [Client.call]
    split
    · exact .bind (.true _) fun _ _ _ => .pure hwf
    · exact .pure hwf
  | runWithCursor i =>
    dsimp only [Client.call]
    split
    · next s hs =>
      refine .bind (runWithCursor_stmt T s).attempt fun x _ hx => ?_
      cases x
      · exact .pure hwf
      · next c =>
        refine .pure ⟨hwf.stmt_conn, fun i' c' hc' => ?_⟩
        rcases List.mem_append.1 hc' with h | h
        · exact hwf.cursor_stmt i' c' h
        · obtain ⟨rfl, rfl⟩ : i' = i ∧ c' = c := by simpa using h
          rw [hx c' rfl]
          exact ⟨s, hs, rfl, hwf.stmt_conn s (List.getElem?_mem hs)⟩
    · exact .pure hwf
  | next j decode =>
    dsimp only [Client.call]
    split
    · next i c hc =>
      refine .bind (next_stmt c decode) fun ⟨c', r⟩ _ ⟨h₁, _⟩ => .pure ⟨hwf.stmt_conn, fun i' c'' hc'' => ?_⟩
      rcases List.mem_or_eq_of_mem_set hc'' with h | h
      · exact hwf.cursor_stmt i' c'' h
      · obtain ⟨rfl, rfl⟩ : i' = i ∧ c'' = c' := by simpa using h
        dsimp only at h₁
        rw [h₁]
        exact hwf.cursor_stmt _ c (List.getElem?_mem hc)
    · exact .pure hwf
  | dropCursor j | dropStatement i =>
    dsimp only [Client.call]
    split
    · exact .bind (.true _) fun _ _ _ => .pure (Client.release_wf hwf _)
    · rw [Oci.pure_bind]
      exact .pure (Client.release_wf hwf _)

theorem Client.step_live (σ : Client τ) (hwf : σ.WF) (op : Op τ α) :
    Live σ.handles (σ.step T op) (fun σ' => σ'.handles) [] :=
  .unwindWith (Client.call_live T σ hwf op) (Client.dropAll_live _ (Client.release_wf hwf op) true)

theorem Client.step_wf (σ : Client τ) (hwf : σ.WF) (op : Op τ α) :
    Returns (fun σ' _ => σ'.WF) (σ.step T op) :=
  .unwindWith (Client.call_wf T σ hwf op)

theorem Client.run_wf (ops : List (Op τ α)) : ∀ σ : Client τ, σ.WF →
    Returns (fun σ' _ => σ'.WF) (σ.run T ops) := by
  induction ops with
  | nil => exact fun _ hwf => .pure hwf
  | cons op ops ih => exact fun σ hwf => .bind (Client.step_wf T σ hwf op) fun σ' _ h => ih σ' h

theorem Client.run_live (ops : List (Op τ α)) : ∀ σ : Client τ, σ.WF →
    Live σ.handles (σ.run T ops) (fun σ' => σ'.handles) [] := by
  induction ops with
  | nil => exact fun _ _ => .pure (.refl _)
  | cons op ops ih => exact fun σ hwf => .bindWith (Client.step_live T σ hwf op) (Client.step_wf T σ hwf op) ih

theorem session_live (url : String) (ops : List (Op τ α)) :
    Live [] (session T url ops) (fun _ => []) [] := by
  refine .bind ((establish_live url).mapErr _) fun conn => ?_
  have hwf : (⟨conn, [], []⟩ : Client τ).WF := ⟨by simp, by simp⟩
  refine .bindWith ((((Client.run_live T ops _ hwf).mono ?_).mapErr _)) ((Client.run_wf T ops _ hwf).mapErr _)
    fun σ hσ => (Client.dropAll_live σ hσ false).mapErr _
  simpa [Client.handles] using (RawConnection.handles_perm conn).symm.subperm

/-- Every handle a native call of a session reads or frees is live when the call is made. -/
theorem session_reads_live (url : String) (ops : List (Op τ α)) (lib : Lib) (h : List Entry) :
    ReadsLive [] (session T url ops lib h).2 :=
  (session_live T url ops lib h).1

/-- In every session, no handle is freed more often than calls handed it out. -/
theorem session_frees_given (url : String) (ops : List (Op τ α)) (lib : Lib) (h : List Entry) :
    (releases (session T url ops lib h).2).map Prod.fst <+~
      (session T url ops lib h).2.flatMap Entry.given :=
  (List.sublist_append_right _ _).subperm.trans
    (by simpa using (liveAfter_conservation (session_live T url ops lib h).1).subperm)

/-- A caller never holds a dangling handle: its state is an invariant of its runs. -/
theorem Client.run_invariant (σ : Client τ) (hwf : σ.WF) (ops : List (Op τ α)) (lib : Lib)
    (h : List Entry) :
    ReadsLive σ.handles (σ.run T ops lib h).2 ∧ ∀ σ', (σ.run T ops lib h).1 = .ok σ' →
      σ'.WF ∧ σ'.handles <+~ liveAfter σ.handles (σ.run T ops lib h).2 := by
  obtain ⟨hr, hl⟩ := Client.run_live T ops σ hwf lib h
  refine ⟨hr, fun σ' hσ => ⟨Client.run_wf T ops σ hwf lib h σ' hσ, ?_⟩⟩
  rwa [hσ, Exit.leaves_ok] at hl

theorem Client.run_invariant_select :
    (⟨sampleConnection, [], []⟩ : Client Nat).WF ∧
      ReadsLive (⟨sampleConnection, [], []⟩ : Client Nat).handles
        ((⟨sampleConnection, [], []⟩ : Client Nat).run rawTypes
          ([.prepare "SELECT 1", .runWithCursor 0, .next 0 fun _ => .ok ()] : List (Op Nat Unit))
          freshHandleLib []).2 ∧
      ∀ σ', ((⟨sampleConnection, [], []⟩ : Client Nat).run rawTypes
          ([.prepare "SELECT 1", .runWithCursor 0, .next 0 fun _ => .ok ()] : List (Op Nat Unit))
          freshHandleLib []).1 = .ok σ' →
        σ'.WF ∧ σ'.handles <+~ liveAfter (⟨sampleConnection, [], []⟩ : Client Nat).handles
          ((⟨sampleConnection, [], []⟩ : Client Nat).run rawTypes
            ([.prepare "SELECT 1", .runWithCursor 0, .next 0 fun _ => .ok ()] : List (Op Nat Unit))
            freshHandleLib []).2 :=
  have hwf : (⟨sampleConnection, [], []⟩ : Client Nat).WF := ⟨by simp, by simp⟩
  ⟨hwf, Client.run_invariant rawTypes _ hwf _ _ _⟩

end Runs

/-- Every run of `m` that does not abort ends with a whole run of `d`. -/
def Oci.EndsWith (d : Oci ε Unit) (m : Oci ε' α) : Prop :=
  ∀ lib h, (m lib h).1 ≠ .panic abortMessage → ∃ h', (d lib h').2 <:+ (m lib h).2

/-- Every run of `m` that ends early and does not abort ends with a whole run of `d`. -/
def Oci.AbortsWith (d : Oci ε Unit) (m : Oci ε' α) : Prop :=
  ∀ lib h, (m lib h).1.Aborts → (m lib h).1 ≠ .panic abortMessage →
    ∃ h', (d lib h').2 <:+ (m lib h).2

section Teardown

variable {d : Oci ε Unit}

theorem Oci.aborts_of_unwindWith {m : Oci ε' α} {d' : Oci ε' Unit}
    (ha : (Oci.unwindWith d' m lib h).1.Aborts) : (m lib h).1.Aborts := by
  rcases hx : (m lib h).1 with a | _ | _
  · rw [unwindWith_fst_eq_ok.2 hx] at ha
    exact ha.elim
  all_goals trivial

theorem Oci.AbortsWith.unwindWith {m : Oci ε' α} {d' : Oci ε' Unit} (hd : EndsWith d d') :
    AbortsWith d (Oci.unwindWith d' m) := by
  intro lib h ha hab
  have hm := aborts_of_unwindWith ha
  rcases hd' : (d' lib (h ++ (m lib h).2)).1 with _ | _ | _
  · obtain ⟨h', hs⟩ := hd lib _ (by rw [hd']; nofun)
    rw [unwindWith_snd, onAbort_snd_of_aborts _ hm]
    exact ⟨h', hs.trans (List.suffix_append _ _)⟩
  all_goals exact absurd (unwindWith_fst_of_aborts hm (by rw [hd']; trivial)) hab

theorem Oci.AbortsWith.abortOnPanic (m : Oci ε' Unit) : AbortsWith d (Oci.abortOnPanic m) := by
  intro lib h ha hab
  rcases hx : (m lib h).1 with _ | _ | _
  · rw [abortOnPanic_of_ok hx, hx] at ha
    exact ha.elim
  all_goals exact absurd (abortOnPanic_fst_of_aborts (by rw [hx]; trivial)) hab

theorem Oci.EndsWith.bindWith {m : Oci ε' α} {k : α → Oci ε' β} {R : α → Prop}
    (hm : AbortsWith d m) (hR : Returns (fun a _ => R a) m) (hk : ∀ a, R a → EndsWith d (k a)) :
    EndsWith d (m >>= k) := by
  intro lib h hab
  rcases hr : m lib h with ⟨a | e | s, w⟩
  · rw [bind_of_ok hr] at hab ⊢
    obtain ⟨h', hs⟩ := hk a (by simpa [hr] using hR lib h a (by rw [hr])) lib (h ++ w) hab
    exact ⟨h', hs.trans (List.suffix_append _ _)⟩
  all_goals
    first | rw [bind_of_err hr] at hab ⊢ | rw [bind_of_panic hr] at hab ⊢
    simpa [hr] using hm lib h (by rw [hr]; trivial) (by rw [hr]; simp_all)

theorem Oci.AbortsWith.bindWith {m : Oci ε' α} {k : α → Oci ε' β} {R : α → Prop}
    (hm : AbortsWith d m) (hR : Returns (fun a _ => R a) m) (hk : ∀ a, R a → AbortsWith d (k a)) :
    AbortsWith d (m >>= k) := by
  intro lib h ha hab
  rcases hr : m lib h with ⟨a | e | s, w⟩
  · rw [bind_of_ok hr] at ha hab ⊢
    obtain ⟨h', hs⟩ := hk a (by simpa [hr] using hR lib h a (by rw [hr])) lib (h ++ w) ha hab
    exact ⟨h', hs.trans (List.suffix_append _ _)⟩
  all_goals
    first | rw [bind_of_err hr] at hab ⊢ | rw [bind_of_panic hr] at hab ⊢
    simpa [hr] using hm lib h (by rw [hr]; trivial) (by rw [hr]; simp_all)

theorem Oci.EndsWith.mapErr {m : Oci ε' α} (f : ε' → ε'') (hm : EndsWith d m) :
    EndsWith d (Oci.mapErr f m) := by
  intro lib h hab
  rw [mapErr_snd]
  refine hm lib h ?_
  revert hab
  simp only [Oci.mapErr]
  rcases m lib h with ⟨_ | _ | _, _⟩ <;> simp

theorem Oci.AbortsWith.mapErr {m : Oci ε' α} (f : ε' → ε'') (hm : AbortsWith d m) :
    AbortsWith d (Oci.mapErr f m) := by
  intro lib h ha hab
  rw [mapErr_snd]
  simp only [Oci.mapErr] at ha hab
  rcases hr : m lib h with ⟨_ | _ | _, w⟩ <;> rw [hr] at ha hab
  · exact ha.elim
  all_goals simpa [hr] using hm lib h (by rw [hr]; trivial) (by rw [hr]; simp_all)

theorem Oci.EndsWith.dropIn : EndsWith d (DieselOci.dropIn d u) := by
  intro lib h hab
  cases u
  · exact ⟨h, List.suffix_refl _⟩
  · rcases hx : (d lib h).1 with _ | _ | _
    · exact ⟨h, by rw [DieselOci.dropIn, abortOnPanic_of_ok hx]⟩
    all_goals exact absurd (abortOnPanic_fst_of_aborts (by rw [hx]; trivial)) hab

theorem dropThen_endsWith {drop : β → Oci ε' Unit} {rest : Bool → Oci ε' Unit}
    (hr : ∀ u, EndsWith d (rest u)) (xs : List β) (u : Bool) :
    EndsWith d (dropThen drop rest xs u) := by
  induction xs generalizing u with
  | nil => exact hr u
  | cons x xs ih =>
    cases u
    · exact .bindWith (R := fun _ => True) (.unwindWith (ih true)) (fun _ _ _ _ => trivial)
        fun _ _ => ih false
    · exact .bindWith (R := fun _ => True) (.abortOnPanic _) (fun _ _ _ _ => trivial)
        fun _ _ => ih true

end Teardown

theorem Client.dropAll_endsWith (σ : Client τ) (u : Bool) :
    EndsWith (σ.conn.drop : Oci Error Unit) (σ.dropAll u) :=
  dropThen_endsWith (dropThen_endsWith (fun _ => .dropIn) _) _ u

/-- No run of `m` ends with an `Err`. -/
def Oci.NoErr (m : Oci ε α) : Prop := ∀ lib h e, (m lib h).1 ≠ .err e

namespace Oci.NoErr

theorem pure : NoErr (Pure.pure a : Oci ε α) := fun _ _ _ => nofun

theorem native : NoErr (Oci.native c : Oci ε Reply) := fun _ _ _ => nofun

theorem attempt (m : Oci ε α) : NoErr (Oci.attempt m : Oci ε' (Except ε α)) := by
  intro lib h e
  simp only [Oci.attempt]
  split <;> nofun

theorem bind {m : Oci ε α} {k : α → Oci ε β} (hm : NoErr m) (hk : ∀ a, NoErr (k a)) :
    NoErr (m >>= k) := by
  intro lib h e he
  rcases hr : m lib h with ⟨a | e' | s, w⟩
  · rw [bind_of_ok hr] at he
    exact hk a _ _ _ he
  · exact hm lib h e' (by rw [hr])
  · rw [bind_of_panic hr] at he
    cases he

end Oci.NoErr

theorem dropFields_noErr (fs : List (Field τ)) : NoErr (dropFields fs : Oci ε Unit) := by
  induction fs with
  | nil => exact .pure
  | cons f fs ih => exact .bind (.bind .native fun _ => .pure) fun _ => ih

@[simp] theorem Client.release_conn (σ : Client τ) (op : Op τ α) : (σ.release op).conn = σ.conn := by
  cases op <;> simp only [Client.release]
  split <;> rfl

section Runs

variable (T : DataTypeOps τ) [DecidableEq τ]

theorem Client.call_conn (σ : Client τ) (op : Op τ α) :
    Returns (fun σ' _ => σ'.conn = σ.conn) (σ.call T op) := by
  cases op <;> dsimp only [Client.call]
  case prepare => exact .bind (.true _) fun x _ _ => by cases x <;> exact .pure rfl
  case bind =>
    split
    · split
      · exact .pure rfl
      · exact .bind (.true _) fun ⟨_, _⟩ _ _ => .pure rfl
    · exact .pure rfl
  case runWithCursor =>
    split
    · exact .bind (.true _) fun x _ _ => by cases x <;> exact .pure rfl
    · exact .pure rfl
  case next =>
    split
    · exact .bind (.true _) fun ⟨_, _⟩ _ _ => .pure rfl
    · exact .pure rfl
  case dropCursor | dropStatement =>
    split
    · exact .bind (.true _) fun _ _ _ => .pure (σ.release_conn _)
    · rw [Oci.pure_bind]
      exact .pure (σ.release_conn _)
  all_goals
    split
    · exact .bind (.true _) fun _ _ _ => .pure rfl
    · exact .pure rfl

/-- A call ends early only by a panic. -/
theorem Client.call_noErr (σ : Client τ) (op : Op τ α) : NoErr (σ.call T op) := by
  cases op <;> dsimp only [Client.call]
  case prepare => exact .bind (.attempt _) fun x => by cases x <;> exact .pure
  case bind =>
    split
    · split
      · exact .pure
      · exact .bind (.bind .native fun _ => .bind (.attempt _) fun _ => .pure) fun _ => .pure
    · exact .pure
  case runWithCursor =>
    split
    · exact .bind (.attempt _) fun x => by cases x <;> exact .pure
    · exact .pure
  case next =>
    split
    · exact .bind (.bind .native fun _ => .bind (.attempt _) fun x => by
        cases x <;> dsimp only <;> (try split) <;> exact .pure) fun _ => .pure
    · exact .pure
  case dropCursor | dropStatement =>
    split
    · first
        | exact .bind (dropFields_noErr _) fun _ => .pure
        | exact .bind (.bind .native fun _ => .bind (.attempt _) fun _ => .pure) fun _ => .pure
    · exact .bind .pure fun _ => .pure
  all_goals
    split
    · exact .bind (.attempt _) fun _ => .pure
    · exact .pure

theorem Client.step_conn (σ : Client τ) (op : Op τ α) :
    Returns (fun σ' _ => σ'.conn = σ.conn) (σ.step T op) :=
  .unwindWith (Client.call_conn T σ op)

theorem Client.step_abortsWith (σ : Client τ) (op : Op τ α) :
    AbortsWith (σ.conn.drop : Oci Error Unit) (σ.step T op) :=
  .unwindWith (by simpa using (σ.release op).dropAll_endsWith true)

theorem Client.run_conn (ops : List (Op τ α)) : ∀ σ : Client τ,
    Returns (fun σ' _ => σ'.conn = σ.conn) (σ.run T ops) := by
  induction ops with
  | nil => exact fun _ => .pure rfl
  | cons op ops ih =>
    exact fun σ => .bind (Client.step_conn T σ op) fun σ' _ h => (ih σ').mono fun _ _ h' => h'.trans h

theorem Client.run_abortsWith (ops : List (Op τ α)) : ∀ σ : Client τ,
    AbortsWith (σ.conn.drop : Oci Error Unit) (σ.run T ops) := by
  induction ops with
  | nil => exact fun _ _ _ h => h.elim
  | cons op ops ih =>
    exact fun σ => .bindWith (Client.step_abortsWith T σ op) (Client.step_conn T σ op)
      fun σ' h => h ▸ ih σ'

end Runs

end DieselOci

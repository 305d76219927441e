import Mathlib

namespace DieselOci
set_option autoImplicit true

/-- A C integer of 32 bits as it crosses the interface. -/
abbrev Word := BitVec 32

def OCI_SUCCESS : Word := 0
def OCI_NO_DATA : Word := 100
def OCI_ERROR : Word := -1
def OCI_INVALID_HANDLE : Word := -2

def OCI_HTYPE_ENV : Nat := 1
def OCI_HTYPE_ERROR : Nat := 2
def OCI_HTYPE_SVCCTX : Nat := 3
def OCI_HTYPE_STMT : Nat := 4
def OCI_HTYPE_BIND : Nat := 5
def OCI_HTYPE_DEFINE : Nat := 6
def OCI_HTYPE_SERVER : Nat := 8
def OCI_HTYPE_SESSION : Nat := 9
def OCI_HTYPE_TRANS : Nat := 10
def OCI_DTYPE_PARAM : Nat := 53

def OCI_ATTR_SERVER : Nat := 6
def OCI_ATTR_SESSION : Nat := 7
def OCI_ATTR_TRANS : Nat := 8
def OCI_ATTR_ROW_COUNT : Nat := 9
def OCI_ATTR_CHARSET_ID : Nat := 31
def OCI_ATTR_PARAM_COUNT : Nat := 18
def OCI_ATTR_USERNAME : Nat := 22
def OCI_ATTR_PASSWORD : Nat := 23
def OCI_ATTR_DATA_TYPE : Nat := 2
def OCI_ATTR_PRECISION : Nat := 5
def OCI_ATTR_SCALE : Nat := 6
def OCI_ATTR_CHAR_SIZE : Nat := 286

def OCI_CRED_RDBMS : Nat := 1
def OCI_FETCH_NEXT : Nat := 2
def OCI_ERROR_MAXMSG_SIZE2 : Nat := 3072

def SQLT_CHR : Nat := 1
def SQLT_NUM : Nat := 2
def SQLT_INT : Nat := 3
def SQLT_FLT : Nat := 4
def SQLT_STR : Nat := 5
def SQLT_LNG : Nat := 8
def SQLT_VCS : Nat := 9
def SQLT_BFLOAT : Nat := 21
def SQLT_BDOUBLE : Nat := 22
def SQLT_UIN : Nat := 68
def SQLT_LVC : Nat := 94
def SQLT_AFC : Nat := 96
def SQLT_IBFLOAT : Nat := 100
def SQLT_IBDOUBLE : Nat := 101
def SQLT_VST : Nat := 155
def SQLT_ODT : Nat := 156
def SQLT_DATE : Nat := 184
def SQLT_TIMESTAMP : Nat := 187
def SQLT_TIMESTAMP_TZ : Nat := 188
def SQLT_TIMESTAMP_LTZ : Nat := 232

/-- What `OCIAttrSet` is handed. -/
inductive AttrValue where
  | handle (h : Nat)
  | text (s : String)
  | charset (id : Nat)
  deriving DecidableEq, Repr

/-- The native calls the driver issues, with the arguments it passes; `0` is null. -/
inductive Call where
  | envNlsCreate
  | handleAlloc (env htype : Nat)
  | nlsCharSetNameToId (env : Nat) (name : String)
  | handleFree (handle htype : Nat)
  | serverAttach (server err : Nat) (dblink : String) (len : Word)
  | attrSet (target htype : Nat) (value : AttrValue) (size : Word) (attr err : Nat)
  | sessionBegin (svc err session cred : Nat)
  | sessionEnd (svc err session : Nat)
  | serverDetach (server err : Nat)
  | stmtPrepare2 (svc err : Nat) (text : String) (len : Word)
  | errorGet (err recordNo : Nat) (bufsiz : Word) (htype : Nat)
  | stmtExecute (svc stmt err iters : Nat)
  | attrGet (target htype attr err : Nat)
  | paramGet (stmt htype err : Nat) (pos : Word)
  | defineByPos (stmt err : Nat) (pos : Word) (buf : List UInt8) (len : Word)
      (dty : BitVec 16) (ind : BitVec 16)
  | bindByPos (stmt err : Nat) (pos : Word) (buf : List UInt8) (len : Word)
      (dty : BitVec 16) (ind : BitVec 16)
  | stmtFetch2 (stmt err nrows orientation : Nat)
  | stmtRelease (stmt err : Nat)
  deriving DecidableEq, Repr

/-- The reply of the library to one call. -/
structure Reply where
  status : Word := 0
  handle : Nat := 0
  value : Nat := 0
  bytes : List UInt8 := []
  row : List (List UInt8 × BitVec 16) := []
  deriving DecidableEq, Repr

structure Entry where
  call : Call
  reply : Reply
  deriving DecidableEq, Repr

/-- The native library: its reply may depend on every call issued before it. -/
def Lib := List Entry → Call → Reply

/-- How a call into the driver ends: a value, an `Err`, or a panic. -/
inductive Exit (ε α : Type) where
  | ok (a : α)
  | err (e : ε)
  | panic (msg : String)
  deriving DecidableEq, Repr

def Exit.Aborts : Exit ε α → Prop
  | .ok _ => False
  | .err _ | .panic _ => True

def Exit.map (f : α → β) : Exit ε α → Exit ε β
  | .ok a => .ok (f a)
  | .err e => .err e
  | .panic s => .panic s

@[simp] theorem Exit.map_ok (f : α → β) (a : α) : (Exit.ok a : Exit ε α).map f = .ok (f a) := rfl

@[simp] theorem Exit.map_err (f : α → β) (e : ε) : (Exit.err e : Exit ε α).map f = .err e := rfl

@[simp] theorem Exit.map_panic (f : α → β) (s : String) :
    (Exit.panic s : Exit ε α).map f = .panic s := rfl

/-- A computation of the driver: how it ends, and the native calls it issued. -/
def Oci (ε α : Type) := Lib → List Entry → Exit ε α × List Entry

namespace Oci

def bind (m : Oci ε α) (k : α → Oci ε β) : Oci ε β := fun lib h =>
  match m lib h with
  | (.ok a, w) => ((k a lib (h ++ w)).1, w ++ (k a lib (h ++ w)).2)
  | (.err e, w) => (.err e, w)
  | (.panic s, w) => (.panic s, w)

instance : Monad (Oci ε) where
  pure a := fun _ _ => (.ok a, [])
  bind := Oci.bind

def native (c : Call) : Oci ε Reply := fun lib h => (.ok (lib h c), [⟨c, lib h c⟩])

/-- Rust's early `return Err(..)`, and `?` on an `Err`. -/
def throw (e : ε) : Oci ε α := fun _ _ => (.err e, [])

def panic (msg : String) : Oci ε α := fun _ _ => (.panic msg, [])

def lift (e : Exit ε α) : Oci ε α := fun _ _ => (e, [])

/-- Rust's `map_err`. -/
def mapErr (f : ε → ε') (m : Oci ε α) : Oci ε' α := fun lib h =>
  match m lib h with
  | (.ok a, w) => (.ok a, w)
  | (.err e, w) => (.err (f e), w)
  | (.panic s, w) => (.panic s, w)

/-- Catch an `Err` as a value; a panic still unwinds. -/
def attempt (m : Oci ε α) : Oci ε' (Except ε α) := fun lib h =>
  match m lib h with
  | (.ok a, w) => (.ok (.ok a), w)
  | (.err e, w) => (.ok (.error e), w)
  | (.panic s, w) => (.panic s, w)

/-- The drop of an owned local when `m` ends early. -/
def onAbort (d : Oci ε Unit) (m : Oci ε α) : Oci ε α := fun lib h =>
  match m lib h with
  | (.ok a, w) => (.ok a, w)
  | (e, w) => (e, w ++ (d lib (h ++ w)).2)

/-- What the runtime prints when a drop panics while a panic unwinds. -/
def abortMessage : String := "panic in a destructor during cleanup"

/-- A drop run while a panic unwinds: when it ends early, the process aborts. -/
def abortOnPanic (d : Oci ε Unit) : Oci ε Unit := fun lib h =>
  match d lib h with
  | (.ok (), w) => (.ok (), w)
  | (_, w) => (.panic abortMessage, w)

/-- `m`, and when it ends early, the drops `d` run while it unwinds. -/
def unwindWith (d : Oci ε Unit) (m : Oci ε α) : Oci ε α := fun lib h =>
  match m lib h with
  | (.ok a, w) => (.ok a, w)
  | (e, w) =>
    match d lib (h ++ w) with
    | (.ok (), w') => (e, w ++ w')
    | (_, w') => (.panic abortMessage, w ++ w')

@[simp] theorem pure_apply (a : α) (lib : Lib) (h : List Entry) :
    (Pure.pure a : Oci ε α) lib h = (.ok a, []) := rfl

@[simp] theorem native_apply (c : Call) (lib : Lib) (h : List Entry) :
    (native c : Oci ε Reply) lib h = (.ok (lib h c), [⟨c, lib h c⟩]) := rfl

@[simp] theorem throw_apply (e : ε) (lib : Lib) (h : List Entry) :
    (throw e : Oci ε α) lib h = (.err e, []) := rfl

@[simp] theorem panic_apply (s : String) (lib : Lib) (h : List Entry) :
    (panic s : Oci ε α) lib h = (.panic s, []) := rfl

@[simp] theorem lift_apply (e : Exit ε α) (lib : Lib) (h : List Entry) :
    (lift e : Oci ε α) lib h = (e, []) := rfl

theorem bind_apply (m : Oci ε α) (k : α → Oci ε β) (lib : Lib) (h : List Entry) :
    (m >>= k) lib h = bind m k lib h := rfl

theorem bind_eq_ok {m : Oci ε α} {k : α → Oci ε β} (hr : (m >>= k) lib h = (.ok b, w)) :
    ∃ a w₁ w₂, m lib h = (.ok a, w₁) ∧ k a lib (h ++ w₁) = (.ok b, w₂) ∧ w = w₁ ++ w₂ := by
  simp only [bind_apply, bind] at hr
  split at hr
  · next a w₁ hm =>
    simp only [Prod.mk.injEq] at hr
    exact ⟨a, w₁, _, hm, Prod.ext hr.1 rfl, hr.2.symm⟩
  all_goals simp at hr

theorem bind_fst_eq_ok {m : Oci ε α} {k : α → Oci ε β} (hr : ((m >>= k) lib h).1 = .ok b) :
    ∃ a w₁, m lib h = (.ok a, w₁) ∧ (k a lib (h ++ w₁)).1 = .ok b := by
  simp only [bind_apply, bind] at hr
  split at hr
  · next a w₁ hm => exact ⟨a, w₁, hm, hr⟩
  all_goals cases hr

theorem bind_inv {m : Oci ε α} {k : α → Oci ε β} (hr : (m >>= k) lib h = (e, w)) :
    (∃ a w₁ w₂, m lib h = (.ok a, w₁) ∧ k a lib (h ++ w₁) = (e, w₂) ∧ w = w₁ ++ w₂) ∨
      (e.Aborts ∧ (m lib h).1.Aborts ∧ w = (m lib h).2) := by
  simp only [bind_apply, bind] at hr
  rcases hm : m lib h with ⟨a | e' | s, w₁⟩ <;> rw [hm] at hr <;> cases hr
  · exact .inl ⟨a, w₁, _, rfl, rfl, rfl⟩
  · exact .inr ⟨trivial, trivial, rfl⟩
  · exact .inr ⟨trivial, trivial, rfl⟩

theorem bind_of_ok {m : Oci ε α} (hm : m lib h = (.ok a, w)) (k : α → Oci ε β) :
    (m >>= k) lib h = ((k a lib (h ++ w)).1, w ++ (k a lib (h ++ w)).2) := by
  simp only [bind_apply, bind, hm]

theorem bind_of_err {m : Oci ε α} (hm : m lib h = (.err e, w)) (k : α → Oci ε β) :
    (m >>= k) lib h = (.err e, w) := by
  simp only [bind_apply, bind, hm]

theorem bind_of_panic {m : Oci ε α} (hm : m lib h = (.panic s, w)) (k : α → Oci ε β) :
    (m >>= k) lib h = (.panic s, w) := by
  simp only [bind_apply, bind, hm]

theorem bind_snd (m : Oci ε α) (k : α → Oci ε β) (lib : Lib) (h : List Entry) :
    ((m >>= k) lib h).2 = (m lib h).2 ++ match (m lib h).1 with
      | .ok a => (k a lib (h ++ (m lib h).2)).2
      | _ => [] := by
  simp only [bind_apply, bind]
  rcases m lib h with ⟨a | e | s, w⟩ <;> simp

@[simp] theorem onAbort_fst (d : Oci ε Unit) (m : Oci ε α) (lib : Lib) (h : List Entry) :
    (onAbort d m lib h).1 = (m lib h).1 := by
  simp only [onAbort]
  rcases m lib h with ⟨a | e | s, w⟩ <;> rfl

theorem onAbort_snd (d : Oci ε Unit) (m : Oci ε α) (lib : Lib) (h : List Entry) :
    (onAbort d m lib h).2 = (m lib h).2 ++ match (m lib h).1 with
      | .ok _ => []
      | _ => (d lib (h ++ (m lib h).2)).2 := by
  simp only [onAbort]
  rcases m lib h with ⟨a | e | s, w⟩ <;> simp

@[simp] theorem unwindWith_snd (d : Oci ε Unit) (m : Oci ε α) (lib : Lib) (h : List Entry) :
    (unwindWith d m lib h).2 = (onAbort d m lib h).2 := by
  simp only [unwindWith, onAbort]
  split
  · rfl
  · split <;> simp_all

theorem unwindWith_fst_eq_ok {d : Oci ε Unit} {m : Oci ε α} :
    (unwindWith d m lib h).1 = .ok a ↔ (m lib h).1 = .ok a := by
  simp only [unwindWith]
  split
  · simp_all
  · next hm => split <;> cases hr : (m lib h).1 <;> simp_all

theorem unwindWith_fst_of_aborts {d : Oci ε Unit} {m : Oci ε α} (hm : (m lib h).1.Aborts)
    (hd : (d lib (h ++ (m lib h).2)).1.Aborts) : (unwindWith d m lib h).1 = .panic abortMessage := by
  simp only [unwindWith]
  split
  · simp_all [Exit.Aborts]
  · split <;> simp_all [Exit.Aborts]

@[simp] theorem abortOnPanic_snd (d : Oci ε Unit) (lib : Lib) (h : List Entry) :
    (abortOnPanic d lib h).2 = (d lib h).2 := by
  simp only [abortOnPanic]
  split <;> simp_all

theorem abortOnPanic_fst_eq_ok {d : Oci ε Unit} :
    (abortOnPanic d lib h).1 = .ok a ↔ (d lib h).1 = .ok a := by
  simp only [abortOnPanic]
  split <;> simp_all

theorem abortOnPanic_of_ok {d : Oci ε Unit} (hd : (d lib h).1 = .ok ()) :
    abortOnPanic d lib h = d lib h := by
  simp only [abortOnPanic]
  split <;> simp_all

theorem abortOnPanic_fst_of_aborts {d : Oci ε Unit} (hd : (d lib h).1.Aborts) :
    (abortOnPanic d lib h).1 = .panic abortMessage := by
  simp only [abortOnPanic]
  split <;> simp_all [Exit.Aborts]

theorem onAbort_snd_of_aborts {m : Oci ε α} (d : Oci ε Unit) (ha : (m lib h).1.Aborts) :
    (onAbort d m lib h).2 = (m lib h).2 ++ (d lib (h ++ (m lib h).2)).2 := by
  rw [onAbort_snd]
  split
  · simp_all [Exit.Aborts]
  · rfl

@[simp] theorem mapErr_snd (f : ε → ε') (m : Oci ε α) (lib : Lib) (h : List Entry) :
    (mapErr f m lib h).2 = (m lib h).2 := by
  simp only [mapErr]
  rcases m lib h with ⟨a | e | s, w⟩ <;> rfl

@[simp] theorem attempt_snd (m : Oci ε α) (lib : Lib) (h : List Entry) :
    (attempt m lib h : Exit ε' _ × _).2 = (m lib h).2 := by
  simp only [attempt]
  rcases m lib h with ⟨a | e | s, w⟩ <;> rfl

theorem onAbort_eq_ok {d : Oci ε Unit} {m : Oci ε α} (hr : onAbort d m lib h = (.ok a, w)) :
    m lib h = (.ok a, w) := by
  have h₁ := congrArg Prod.fst hr
  have h₂ := congrArg Prod.snd hr
  rw [onAbort_fst] at h₁
  rw [onAbort_snd, h₁] at h₂
  exact Prod.ext h₁ (by simpa using h₂)

@[simp] theorem pure_bind (a : α) (k : α → Oci ε β) : (Pure.pure a >>= k) = k a := by
  funext lib h
  simp [bind_apply, bind]

theorem bind_assoc (m : Oci ε α) (k : α → Oci ε β) (k' : β → Oci ε γ) :
    (m >>= k) >>= k' = m >>= fun a => k a >>= k' := by
  funext lib h
  simp only [bind_apply, bind]
  rcases m lib h with ⟨a | e | s, w⟩
  · dsimp only
    rcases k a lib (h ++ w) with ⟨b | e | s, w'⟩ <;> simp
  all_goals rfl

@[simp] theorem native_bind (c : Call) (k : Reply → Oci ε β) (lib : Lib) (h : List Entry) :
    (native c >>= k) lib h =
      ((k (lib h c) lib (h ++ [⟨c, lib h c⟩])).1,
        ⟨c, lib h c⟩ :: (k (lib h c) lib (h ++ [⟨c, lib h c⟩])).2) := rfl

theorem native_bind_inv {k : Reply → Oci ε β} (hr : (native c >>= k) lib h = (e, w)) :
    ∃ w', k (lib h c) lib (h ++ [⟨c, lib h c⟩]) = (e, w') ∧ w = ⟨c, lib h c⟩ :: w' := by
  rw [native_bind] at hr
  cases hr
  exact ⟨_, rfl, rfl⟩

@[simp] theorem attempt_bind (m : Oci ε α) (k : Except ε α → Oci ε' β) (lib : Lib)
    (h : List Entry) :
    (attempt m >>= k) lib h =
      match m lib h with
      | (.ok a, w) => ((k (.ok a) lib (h ++ w)).1, w ++ (k (.ok a) lib (h ++ w)).2)
      | (.err e, w) => ((k (.error e) lib (h ++ w)).1, w ++ (k (.error e) lib (h ++ w)).2)
      | (.panic s, w) => (.panic s, w) := by
  simp only [bind_apply, bind, attempt]
  rcases m lib h with ⟨a | e | s, w⟩ <;> rfl

@[simp] theorem throw_bind (e : ε) (k : α → Oci ε β) : (throw e >>= k) = throw e := rfl

@[simp] theorem panic_bind (s : String) (k : α → Oci ε β) : (panic s >>= k) = panic s := rfl

/-- Every native call a computation issues, on every library and history, satisfies `P`. -/
def Issues (P : Call → Prop) (m : Oci ε α) : Prop :=
  ∀ lib h, ∀ e ∈ (m lib h).2, P e.call

theorem Issues.mono (hm : Issues P m) (hPQ : ∀ c, P c → Q c) : Issues Q m :=
  fun lib h e he => hPQ _ (hm lib h e he)

theorem Issues.of_eq (hm : Issues P m) (he : m lib h = (x, w)) : ∀ e ∈ w, P e.call :=
  fun e hw => hm lib h e (he ▸ hw)

theorem Issues.pure (a : α) : Issues P (Pure.pure a : Oci ε α) := by
  intro lib h e he
  simp at he

theorem Issues.native (hc : P c) : Issues P (native c : Oci ε Reply) := by
  intro lib h e he
  simp only [native_apply, List.mem_singleton] at he
  exact he ▸ hc

theorem Issues.throw (e : ε) : Issues P (throw e : Oci ε α) := by
  intro lib h e he
  simp at he

theorem Issues.ite {a b : Oci ε α} [Decidable c] (ha : Issues P a) (hb : Issues P b) :
    Issues P (if c then a else b) := by
  split
  · exact ha
  · exact hb

theorem Issues.panic (s : String) : Issues P (panic s : Oci ε α) := by
  intro lib h e he
  simp at he

theorem Issues.bind {m : Oci ε α} {k : α → Oci ε β} (hm : Issues P m)
    (hk : ∀ a, Issues P (k a)) : Issues P (m >>= k) := by
  intro lib h e he
  rw [bind_apply, Oci.bind] at he
  split at he
  · rcases List.mem_append.1 he with he | he
    · exact hm lib h e (by simp_all)
    · exact hk _ lib _ e he
  all_goals exact hm lib h e (by simp_all)

theorem Issues.mapErr {m : Oci ε α} (hm : Issues P m) (f : ε → ε') :
    Issues P (mapErr f m) := by
  intro lib h e he
  simp only [Oci.mapErr] at he
  split at he <;> exact hm lib h e (by simp_all)

theorem Issues.attempt {m : Oci ε α} (hm : Issues P m) : Issues P (attempt m : Oci ε' _) := by
  intro lib h e he
  simp only [Oci.attempt] at he
  split at he <;> exact hm lib h e (by simp_all)

theorem Issues.onAbort {m : Oci ε α} {d : Oci ε Unit} (hm : Issues P m) (hd : Issues P d) :
    Issues P (onAbort d m) := by
  intro lib h e he
  simp only [Oci.onAbort] at he
  split at he
  · exact hm lib h e (by simp_all)
  · rcases List.mem_append.1 he with he | he
    · exact hm lib h e (by simp_all)
    · exact hd lib _ e he

theorem Issues.countP_eq_zero {m : Oci ε α} (hm : Issues P m) {p : Entry → Bool}
    (hp : ∀ e : Entry, P e.call → p e = false) (lib : Lib) (h : List Entry) :
    (m lib h).2.countP p = 0 :=
  List.countP_eq_zero.2 fun e he => by simp [hp e (hm lib h e he)]

end Oci

end DieselOci

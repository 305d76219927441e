import DieselOci.Cursor

namespace DieselOci
set_option autoImplicit true

open Oci

/-- The attributes of a column descriptor as `get_attr_type_and_size` reads them. -/
structure ColumnAttrs where
  dataType : Nat
  precision : Int
  scale : Int
  charSize : Nat
  deriving DecidableEq, Repr

/-- The library describes the descriptor `col` by `d`, whatever status comes with it. -/
def Describes (lib : Lib) (eh col : Nat) (d : ColumnAttrs) : Prop :=
  ∀ h, (lib h (.attrGet col OCI_DTYPE_PARAM OCI_ATTR_DATA_TYPE eh)).value % 2 ^ 32 = d.dataType ∧
    (BitVec.ofNat 16 (lib h (.attrGet col OCI_DTYPE_PARAM OCI_ATTR_PRECISION eh)).value).toInt =
      d.precision ∧
    (BitVec.ofNat 8 (lib h (.attrGet col OCI_DTYPE_PARAM OCI_ATTR_SCALE eh)).value).toInt =
      d.scale ∧
    (lib h (.attrGet col OCI_DTYPE_PARAM OCI_ATTR_CHAR_SIZE eh)).value % 2 ^ 32 = d.charSize

/-- The table of `get_attr_type_and_size`. -/
def resolveColumn (d : ColumnAttrs) : Option (Nat × Nat) :=
  if d.dataType = SQLT_INT ∨ d.dataType = SQLT_UIN then some (d.dataType, 8)
  else if d.dataType = SQLT_NUM then
    if d.scale = 0 then some (SQLT_INT, numberSize d.precision) else some (SQLT_FLT, 8)
  else if d.dataType ∈ doubleFamily then some (SQLT_BDOUBLE, 8)
  else if d.dataType ∈ floatFamily then some (SQLT_BFLOAT, 4)
  else if d.dataType ∈ charFamily then some (SQLT_STR, d.charSize)
  else none

variable {self : Statement} {lib : Lib} {h : List Entry}

theorem paramAttr_ok (hr : (Statement.paramAttr self col attr lib h).1 = .ok v) :
    v = (lib h (.attrGet col OCI_DTYPE_PARAM attr self.errorHandle)).value := by
  simp only [Statement.paramAttr, native_bind] at hr
  obtain ⟨_, _, -, hv⟩ := bind_fst_eq_ok hr
  simpa using hv.symm

theorem getAttrTypeAndSize_ok (hd : Describes lib self.errorHandle col d)
    (hok : (self.getAttrTypeAndSize col lib h).1 = .ok r) : resolveColumn d = some r := by
  obtain ⟨v, w₁, h₁, hk⟩ := bind_fst_eq_ok hok
  have hv : v % 2 ^ 32 = d.dataType := by
    rw [paramAttr_ok (congrArg Prod.fst h₁)]
    exact (hd h).1
  simp only [resolveColumn, ← hv]
  dsimp only at hk
  by_cases hi : v % 2 ^ 32 = SQLT_INT ∨ v % 2 ^ 32 = SQLT_UIN
  · rw [if_pos hi] at hk ⊢
    rw [Exit.ok.inj hk]
  rw [if_neg hi] at hk ⊢
  by_cases hn : v % 2 ^ 32 = SQLT_NUM
  · rw [if_pos hn] at hk ⊢
    obtain ⟨p, w₂, h₂, hk⟩ := bind_fst_eq_ok hk
    obtain ⟨s, w₃, h₃, hk⟩ := bind_fst_eq_ok hk
    have hp : (BitVec.ofNat 16 p).toInt = d.precision := by
      rw [paramAttr_ok (congrArg Prod.fst h₂)]
      exact (hd _).2.1
    have hs : (BitVec.ofNat 8 s).toInt = d.scale := by
      rw [paramAttr_ok (congrArg Prod.fst h₃)]
      exact (hd _).2.2.1
    rw [← hp, ← hs]
    by_cases h0 : (BitVec.ofNat 8 s).toInt = 0
    · rw [if_pos h0] at hk ⊢
      rw [Exit.ok.inj hk]
    · rw [if_neg h0] at hk ⊢
      rw [Exit.ok.inj hk]
  rw [if_neg hn] at hk ⊢
  by_cases hdbl : v % 2 ^ 32 ∈ doubleFamily
  · rw [if_pos hdbl] at hk ⊢
    rw [Exit.ok.inj hk]
  rw [if_neg hdbl] at hk ⊢
  by_cases hflt : v % 2 ^ 32 ∈ floatFamily
  · rw [if_pos hflt] at hk ⊢
    rw [Exit.ok.inj hk]
  rw [if_neg hflt] at hk ⊢
  by_cases hch : v % 2 ^ 32 ∈ charFamily
  · rw [if_pos hch] at hk ⊢
    obtain ⟨c, w₂, h₂, hk⟩ := bind_fst_eq_ok hk
    have hc : c % 2 ^ 32 = d.charSize := by
      rw [paramAttr_ok (congrArg Prod.fst h₂)]
      exact (hd _).2.2.2
    rw [← Exit.ok.inj hk, hc]
  · rw [if_neg hch] at hk
    cases hk

/-- A two's-complement integer of `w` bytes holds `n`. -/
def FitsSigned (w : Nat) (n : Int) : Prop := -2 ^ (8 * w - 1) ≤ n ∧ n < 2 ^ (8 * w - 1)

instance (w : Nat) : DecidablePred (FitsSigned w) := fun _ => inferInstanceAs (Decidable (_ ∧ _))

theorem forall_fitsSigned_iff : (∀ n : Int, n.natAbs < m → FitsSigned w n) ↔
    m ≤ 2 ^ (8 * w - 1) := by
  refine ⟨fun h => Nat.not_lt.1 fun hm => ?_, fun hm n hn => ?_⟩
  · have := (h (2 ^ (8 * w - 1) : Nat) (by rwa [Int.natAbs_ofNat])).2
    push_cast at this
    omega
  · have : ((2 ^ (8 * w - 1) : Nat) : Int) = 2 ^ (8 * w - 1) := by push_cast; rfl
    constructor <;> omega

theorem numberSize_fits (h₁ : 1 ≤ p) (h₂ : p ≤ 38) :
    (∀ n : Int, n.natAbs < 10 ^ (p.toNat - 1) → FitsSigned (numberSize p) n) ∧
    ((∀ n : Int, n.natAbs < 10 ^ p.toNat → FitsSigned (numberSize p) n) ↔
      p ∉ [5, 10, 19]) := by
  simp only [forall_fitsSigned_iff]
  by_cases hp : p ∈ [5, 10, 19]
  · simp only [List.mem_cons, List.mem_singleton, List.not_mem_nil, or_false] at hp
    rcases hp with rfl | rfl | rfl <;> decide
  · have hw : numberSize p = 21 := by
      simp only [List.mem_cons, List.mem_singleton, List.not_mem_nil, or_false, not_or] at hp
      unfold numberSize
      split <;> simp_all
    have h38 : 10 ^ p.toNat ≤ 10 ^ 38 := Nat.pow_le_pow_right (by omega) (by omega)
    have hle : 10 ^ (p.toNat - 1) ≤ 10 ^ p.toNat := Nat.pow_le_pow_right (by omega) (by omega)
    have h167 : 10 ^ 38 ≤ 2 ^ (8 * 21 - 1) := by decide
    rw [hw]
    exact ⟨by omega, iff_of_true (by omega) hp⟩

/-- What the type and width resolved for a descriptor say about the column's values. -/
structure Resolves (d : ColumnAttrs) (r : Nat × Nat) : Prop where
  table : resolveColumn d = some r
  number : d.dataType = SQLT_NUM → d.scale = 0 → 1 ≤ d.precision → d.precision ≤ 38 →
    r.1 = SQLT_INT ∧
    (∀ n : Int, n.natAbs < 10 ^ (d.precision.toNat - 1) → FitsSigned r.2 n) ∧
    ((∀ n : Int, n.natAbs < 10 ^ d.precision.toNat → FitsSigned r.2 n) ↔
      d.precision ∉ [5, 10, 19])
  char : d.dataType ∈ charFamily → r = (SQLT_STR, d.charSize)

theorem resolves_of_resolveColumn (hr : resolveColumn d = some r) : Resolves d r where
  table := hr
  number hn hs h₁ h₂ := by
    simp only [resolveColumn, hn, hs, if_true, Option.some.injEq,
      show ¬(SQLT_NUM = SQLT_INT ∨ SQLT_NUM = SQLT_UIN) by decide, if_false] at hr
    exact hr ▸ ⟨rfl, numberSize_fits h₁ h₂⟩
  char hc := by
    obtain ⟨h₁, h₂, h₃, h₄⟩ := (by decide : ∀ t ∈ charFamily, ¬(t = SQLT_INT ∨ t = SQLT_UIN) ∧
      t ≠ SQLT_NUM ∧ t ∉ doubleFamily ∧ t ∉ floatFamily) _ hc
    simp only [resolveColumn, h₁, h₂, h₃, h₄, hc, if_false, if_true, Option.some.injEq] at hr
    exact hr.symm

def describingLib (d : ColumnAttrs) : Lib := fun _ c =>
  match c with
  | .attrGet _ _ attr _ =>
    { value := if attr = OCI_ATTR_DATA_TYPE then d.dataType
        else if attr = OCI_ATTR_PRECISION then (BitVec.ofInt 16 d.precision).toNat
        else if attr = OCI_ATTR_SCALE then (BitVec.ofInt 8 d.scale).toNat
        else d.charSize }
  | _ => {}

/-- The column a call describes (`false`) or defines (`true`), with its position. -/
def Call.columnOp : Call → Option (Bool × Word)
  | .paramGet _ _ _ pos => some (false, pos)
  | .defineByPos _ _ pos _ _ _ _ => some (true, pos)
  | _ => none

@[simp] theorem Call.columnOp_paramGet :
    (Call.paramGet stmt htype err pos).columnOp = some (false, pos) := rfl

@[simp] theorem Call.columnOp_defineByPos :
    (Call.defineByPos stmt err pos buf len dty ind).columnOp = some (true, pos) := rfl

def Call.isDefine : Call → Bool
  | .defineByPos .. => true
  | _ => false

def Call.isExecute : Call → Bool
  | .stmtExecute .. => true
  | _ => false

theorem Call.isDefine_eq_false {c : Call} (hc : c.columnOp = none) : c.isDefine = false := by
  cases c <;> simp_all [Call.columnOp, Call.isDefine]

def DescribeCall (errorHandle col : Nat) (c : Call) : Prop :=
  (∃ attr, c = .attrGet col OCI_DTYPE_PARAM attr errorHandle) ∨ c = errorGetCall errorHandle

def DefinePhaseCall (self : Statement) (c : Call) : Prop :=
  (∃ pos, c = .paramGet self.innerStatement OCI_HTYPE_STMT self.errorHandle pos) ∨
    (∃ col, DescribeCall self.errorHandle col c) ∨
    (∃ pos buf len dty ind, c = .defineByPos self.innerStatement self.errorHandle pos buf len dty ind) ∨
    ∃ d, c = .handleFree d OCI_HTYPE_DEFINE

theorem getAttrTypeAndSize_issues :
    Issues (DescribeCall self.errorHandle col) (self.getAttrTypeAndSize col) := by
  have hattr : ∀ attr, Issues (DescribeCall self.errorHandle col) (self.paramAttr col attr) :=
    fun attr => .bind (.native (.inl ⟨attr, rfl⟩)) fun _ =>
      .bind ((checkError_issues _ _).mono fun _ => .inr) fun _ => .pure _
  exact .bind (hattr _) fun _ => .ite (.pure _) <| .ite (.bind (hattr _) fun _ =>
    .bind (hattr _) fun _ => .ite (.pure _) (.pure _)) <| .ite (.pure _) <| .ite (.pure _) <|
    .ite (.bind (hattr _) fun _ => .pure _) (.throw _)

theorem dropFields_issues (fields : List (Field τ)) :
    Issues (fun c => ∃ d, c = .handleFree d OCI_HTYPE_DEFINE) (dropFields fields : Oci ε Unit) := by
  induction fields with
  | nil => exact .pure _
  | cons f fs ih => exact .bind (.bind (.native ⟨_, rfl⟩) fun _ => .pure _) fun _ => ih

variable (T : DataTypeOps τ)

theorem defineColumn_issues :
    Issues (DefinePhaseCall self) (self.defineColumn T fields pos) := by
  refine .bind (.native (.inl ⟨_, rfl⟩)) fun r => .bind ((checkError_issues _ _).mono
    fun _ hc => .inr (.inl ⟨r.handle, .inr hc⟩)) fun _ => ?_
  refine .bind (getAttrTypeAndSize_issues.mono fun _ hc => .inr (.inl ⟨_, hc⟩)) fun ⟨tpe, size⟩ => ?_
  refine .bind (.native (.inr (.inr (.inl ⟨_, _, _, _, _, rfl⟩)))) fun _ => .bind ((checkError_issues _ _).mono
    fun _ hc => .inr (.inl ⟨0, .inr hc⟩)) fun _ => ?_
  split
  · exact .pure _
  · exact .throw _

theorem defineColumns_issues :
    Issues (DefinePhaseCall self) (self.defineColumns T i n fields) := by
  induction n generalizing i fields with
  | zero => exact .pure _
  | succ n ih =>
    exact .bind (.onAbort (defineColumn_issues T) ((dropFields_issues fields).mono
      fun _ hc => .inr (.inr (.inr hc)))) fun _ => ih

/-- The describe and define calls of columns `i + 1` to `i + m`, in order. -/
def columnOps (i : Nat) : Nat → List (Bool × Word)
  | 0 => []
  | m + 1 =>
    (false, BitVec.ofNat 32 (i + 1)) :: (true, BitVec.ofNat 32 (i + 1)) :: columnOps (i + 1) m

def Statement.defineCall (self : Statement) (tpe tpeSize colNumber : Nat) : Call :=
  .defineByPos self.innerStatement self.errorHandle (BitVec.ofNat 32 colNumber)
    (List.replicate tpeSize 0) (BitVec.ofNat 32 tpeSize) (BitVec.ofNat 16 tpe) (-1)

theorem DescribeCall.columnOp (hc : DescribeCall eh col c) : c.columnOp = none := by
  rcases hc with ⟨a, rfl⟩ | rfl <;> rfl

/-- A computation that neither describes nor defines a column. -/
def Quiet (m : Oci ε α) : Prop := Issues (fun c => c.columnOp = none) m

theorem Quiet.filterMap_eq_nil {m : Oci ε α} (hm : Quiet m) (he : m lib h = (x, w)) :
    w.filterMap (·.call.columnOp) = [] :=
  List.filterMap_eq_nil_iff.2 (hm.of_eq he)

theorem Quiet.filter_eq_nil {m : Oci ε α} (hm : Quiet m) (he : m lib h = (x, w)) :
    w.filter (·.call.isDefine) = [] :=
  List.filter_eq_nil_iff.2 fun e hw => by simp [Call.isDefine_eq_false (hm.of_eq he e hw)]

theorem Quiet.filterMap_snd {m : Oci ε α} (hm : Quiet m) (lib : Lib) (h : List Entry) :
    (m lib h).2.filterMap (·.call.columnOp) = [] :=
  hm.filterMap_eq_nil rfl

theorem Quiet.filter_snd {m : Oci ε α} (hm : Quiet m) (lib : Lib) (h : List Entry) :
    (m lib h).2.filter (·.call.isDefine) = [] :=
  hm.filter_eq_nil rfl

theorem checkError_quiet : Quiet (checkError eh s) :=
  (checkError_issues eh s).mono fun _ hc => hc ▸ rfl

theorem getAttrTypeAndSize_quiet : Quiet (self.getAttrTypeAndSize col) :=
  getAttrTypeAndSize_issues.mono fun _ hc => hc.columnOp

theorem dropFields_quiet (fields : List (Field τ)) : Quiet (dropFields fields : Oci ε Unit) :=
  (dropFields_issues fields).mono fun _ ⟨_, hc⟩ => hc ▸ rfl

theorem define_snd : (self.define T fields tpe size pos lib h).2 =
    ⟨self.defineCall tpe size pos, lib h (self.defineCall tpe size pos)⟩ ::
      (checkError self.errorHandle (lib h (self.defineCall tpe size pos)).status lib
        (h ++ [⟨self.defineCall tpe size pos, lib h (self.defineCall tpe size pos)⟩])).2 := by
  simp only [Statement.define, Statement.defineCall, native_bind, List.length_replicate,
    bind_snd, List.cons.injEq, true_and]
  split
  · cases T.fromRaw tpe <;> simp
  · simp

theorem define_filter : (self.define T fields tpe size pos lib h).2.filter (·.call.isDefine) =
    [⟨self.defineCall tpe size pos, lib h (self.defineCall tpe size pos)⟩] := by
  simp only [define_snd, List.filter_cons, checkError_quiet.filter_snd]
  rfl

theorem define_ok (hr : (self.define T fields tpe size pos lib h).1 = .ok fs) :
    ∃ e t, (self.define T fields tpe size pos lib h).2.filter (·.call.isDefine) = [e] ∧
      e.call = self.defineCall tpe size pos ∧ T.fromRaw tpe = some t ∧
      fs = fields ++ [⟨e.reply.handle, List.replicate size 0, -1, t⟩] := by
  simp only [Statement.define, native_bind, List.length_replicate] at hr
  obtain ⟨_, _, -, hk⟩ := bind_fst_eq_ok hr
  cases ht : T.fromRaw tpe with
  | none => simp [ht] at hk
  | some t =>
    simp only [ht, pure_apply, Exit.ok.injEq] at hk
    exact ⟨_, t, define_filter T, rfl, rfl, hk.symm⟩

theorem define_columnOps :
    (self.define T fields tpe size pos lib h).2.filterMap (·.call.columnOp) =
      [(true, BitVec.ofNat 32 pos)] := by
  simp only [define_snd, List.filterMap_cons, Statement.defineCall, Call.columnOp_defineByPos,
    checkError_quiet.filterMap_snd]

theorem defineColumn_columnOps (hr : self.defineColumn T fields pos lib h = (e, w)) :
    e.Aborts ∧ w.filterMap (·.call.columnOp) = [(false, BitVec.ofNat 32 pos)] ∨
      w.filterMap (·.call.columnOp) =
        [(false, BitVec.ofNat 32 pos), (true, BitVec.ofNat 32 pos)] := by
  obtain ⟨w', hk, rfl⟩ := native_bind_inv hr
  simp only [List.filterMap_cons, Call.columnOp_paramGet]
  rcases bind_inv hk with ⟨_, w₁, w₂, h₁, h₂, rfl⟩ | ⟨ha, -, rfl⟩
  · rw [List.filterMap_append, checkError_quiet.filterMap_eq_nil h₁, List.nil_append]
    rcases bind_inv h₂ with ⟨⟨tpe, size⟩, w₃, w₄, h₃, h₄, rfl⟩ | ⟨ha, -, rfl⟩
    · obtain rfl : (self.define T fields tpe size pos lib _).2 = w₄ := congrArg Prod.snd h₄
      rw [List.filterMap_append, getAttrTypeAndSize_quiet.filterMap_eq_nil h₃,
        List.nil_append, define_columnOps]
      exact .inr rfl
    · rw [getAttrTypeAndSize_quiet.filterMap_snd]
      exact .inl ⟨ha, rfl⟩
  · rw [checkError_quiet.filterMap_snd]
    exact .inl ⟨ha, rfl⟩

theorem defineColumns_columnOps (hr : self.defineColumns T i n fields lib h = (e, w)) :
    (∃ fs, e = .ok fs) ∧ w.filterMap (·.call.columnOp) = columnOps i n ∨
      e.Aborts ∧ ∃ m < n,
        w.filterMap (·.call.columnOp) = columnOps i m ++ [(false, BitVec.ofNat 32 (i + m + 1))] ∨
          w.filterMap (·.call.columnOp) = columnOps i (m + 1) := by
  induction n generalizing i fields h e w with
  | zero =>
    cases hr
    exact .inl ⟨⟨_, rfl⟩, rfl⟩
  | succ n ih =>
    rcases bind_inv hr with ⟨fs, w₁, w₂, h₁, h₂, rfl⟩ | ⟨ha, hab, rfl⟩
    · have hc := onAbort_eq_ok h₁
      have h₁ : w₁.filterMap (·.call.columnOp) = _ :=
        (defineColumn_columnOps T hc).resolve_left fun ⟨hab, _⟩ => hab
      rw [List.filterMap_append, h₁]
      rcases ih h₂ with ⟨hok, h₂⟩ | ⟨ha, m, hm, h₂⟩
      · exact .inl ⟨hok, by rw [h₂]; rfl⟩
      · refine .inr ⟨ha, m + 1, by omega, ?_⟩
        have hi : i + 1 + m + 1 = i + (m + 1) + 1 := by omega
        rw [hi] at h₂
        rcases h₂ with h₂ | h₂ <;> rw [h₂]
        · exact .inl rfl
        · exact .inr rfl
    · rcases hc : self.defineColumn T fields (i + 1) lib h with ⟨e₁, w₁⟩
      have hd : ((onAbort (dropFields fields) (self.defineColumn T fields (i + 1))) lib h).2.filterMap
          (·.call.columnOp) = w₁.filterMap (·.call.columnOp) := by
        rw [onAbort_snd, List.filterMap_append, hc]
        split <;> simp [(dropFields_quiet _).filterMap_snd]
      refine .inr ⟨ha, 0, by omega, ?_⟩
      rw [hd]
      rcases defineColumn_columnOps T hc with ⟨-, h₁⟩ | h₁ <;> rw [h₁]
      · exact .inl rfl
      · exact .inr rfl

/-- The value the first read of `attr` of `col` in `w` wrote, or `0`. -/
def attrRead (eh col attr : Nat) (w : List Entry) : Nat :=
  ((w.find? (·.call == .attrGet col OCI_DTYPE_PARAM attr eh)).map (·.reply.value)).getD 0

/-- The attributes of `col` that the first reads in `w` report. -/
def ColumnAttrs.ofLog (eh col : Nat) (w : List Entry) : ColumnAttrs :=
  ⟨attrRead eh col OCI_ATTR_DATA_TYPE w % 2 ^ 32,
    (BitVec.ofNat 16 (attrRead eh col OCI_ATTR_PRECISION w)).toInt,
    (BitVec.ofNat 8 (attrRead eh col OCI_ATTR_SCALE w)).toInt,
    attrRead eh col OCI_ATTR_CHAR_SIZE w % 2 ^ 32⟩

def Call.isAttrGet : Call → Bool
  | .attrGet .. => true
  | _ => false

theorem Call.beq_attrGet {c : Call} (hc : c.isAttrGet = false) :
    (c == .attrGet col t attr eh) = false := by
  cases c <;> simp_all [Call.isAttrGet]

theorem attrRead_append_left (hx : ∀ e ∈ x, e.call.isAttrGet = false) :
    attrRead eh col attr (x ++ w) = attrRead eh col attr w := by
  induction x with
  | nil => rfl
  | cons e x ih =>
    simp only [attrRead, List.cons_append, List.find?_cons,
      Call.beq_attrGet (hx e (List.mem_cons_self _ _))] at ih ⊢
    exact ih fun e' h' => hx e' (List.mem_cons_of_mem _ h')

theorem attrRead_append_right (hy : ∀ e ∈ y, e.call.isAttrGet = false) :
    attrRead eh col attr (w ++ y) = attrRead eh col attr w := by
  have hn : y.find? (·.call == .attrGet col OCI_DTYPE_PARAM attr eh) = none :=
    List.find?_eq_none.2 fun e he => by simp [Call.beq_attrGet (hy e he)]
  simp only [attrRead, List.find?_append, hn, Option.or_none]

theorem errorGet_isAttrGet {w : List Entry} (hw : ∀ e ∈ w, e.call = errorGetCall eh) :
    ∀ e ∈ w, e.call.isAttrGet = false := fun e he => by rw [hw e he]; rfl

theorem attrRead_paramAttr (hr : self.paramAttr col attr lib h = (.ok v, w)) (attr' : Nat)
    (rest : List Entry) :
    attrRead self.errorHandle col attr' (w ++ rest) =
      if attr = attr' then v else attrRead self.errorHandle col attr' rest := by
  obtain ⟨w', hk, rfl⟩ := native_bind_inv hr
  obtain ⟨_, w₁, w₂, h₁, h₂, rfl⟩ := bind_eq_ok hk
  simp only [pure_apply, Prod.mk.injEq, Exit.ok.injEq] at h₂
  obtain ⟨rfl, rfl⟩ := h₂
  have hw₁ := errorGet_isAttrGet ((checkError_issues _ _).of_eq h₁)
  split_ifs with ha
  · subst ha
    simp [attrRead, List.find?_cons]
  · rw [List.cons_append, List.append_nil, attrRead, List.find?_cons,
      show (Call.attrGet col OCI_DTYPE_PARAM attr self.errorHandle ==
        .attrGet col OCI_DTYPE_PARAM attr' self.errorHandle) = false by simp [ha]]
    exact attrRead_append_left hw₁

/-- What `get_attr_type_and_size` returns is the table on the reads of its own log. -/
theorem getAttrTypeAndSize_ofLog (hok : self.getAttrTypeAndSize col lib h = (.ok r, a)) :
    resolveColumn (ColumnAttrs.ofLog self.errorHandle col a) = some r := by
  obtain ⟨v, w₁, w₂, h₁, hk, rfl⟩ := bind_eq_ok hok
  obtain ⟨h₂, h₃, h₄⟩ : OCI_ATTR_DATA_TYPE ≠ OCI_ATTR_PRECISION ∧
      OCI_ATTR_DATA_TYPE ≠ OCI_ATTR_SCALE ∧ OCI_ATTR_DATA_TYPE ≠ OCI_ATTR_CHAR_SIZE := by decide
  simp only [ColumnAttrs.ofLog, attrRead_paramAttr h₁, if_true, if_neg h₂, if_neg h₃, if_neg h₄,
    resolveColumn]
  dsimp only at hk
  split_ifs at hk with hI hN hD hF hC
  · cases hk
    rw [if_pos hI]
  · obtain ⟨p, wp, w₃, hp, hk₁, rfl⟩ := bind_eq_ok hk
    obtain ⟨q, wq, w₄, hq, hk₂, rfl⟩ := bind_eq_ok hk₁
    obtain ⟨h₅, h₆⟩ : OCI_ATTR_PRECISION ≠ OCI_ATTR_SCALE ∧ OCI_ATTR_SCALE ≠ OCI_ATTR_PRECISION := by
      decide
    simp only [if_neg hI, if_pos hN, attrRead_paramAttr hp, attrRead_paramAttr hq, if_true,
      if_neg h₅, if_neg h₆]
    split_ifs at hk₂ ⊢ <;> cases hk₂ <;> rfl
  · cases hk
    rw [if_neg hI, if_neg hN, if_pos hD]
  · cases hk
    rw [if_neg hI, if_neg hN, if_neg hD, if_pos hF]
  · obtain ⟨c, wc, w₃, hc, hk₁, rfl⟩ := bind_eq_ok hk
    cases hk₁
    simp only [if_neg hI, if_neg hN, if_neg hD, if_neg hF, if_pos hC, attrRead_paramAttr hc,
      if_true]
  · cases hk

def Statement.paramGetCall (self : Statement) (pos : Nat) : Call :=
  .paramGet self.innerStatement OCI_HTYPE_STMT self.errorHandle (BitVec.ofNat 32 pos)

/-- The log `seg` of `define_column` at `pos` defined the field `f`. -/
def DefinesColumn (self : Statement) (T : DataTypeOps τ) (pos : Nat) (seg : List Entry)
    (f : Field τ) : Prop :=
  ∃ d e tpe size, seg.head? = some ⟨self.paramGetCall pos, d⟩ ∧
    seg.filter (·.call.isDefine) = [e] ∧ e.call = self.defineCall tpe size pos ∧
    resolveColumn (ColumnAttrs.ofLog self.errorHandle d.handle seg) = some (tpe, size) ∧
    T.fromRaw tpe = some f.typ ∧ f = ⟨e.reply.handle, List.replicate size 0, -1, f.typ⟩

/-- The logs of the columns from `i + 1` on, each defining the field beside it. -/
def DefinesColumns (self : Statement) (T : DataTypeOps τ) :
    Nat → List (List Entry) → List (Field τ) → Prop
  | _, [], [] => True
  | i, seg :: segs, f :: fs => DefinesColumn self T (i + 1) seg f ∧ DefinesColumns self T (i + 1) segs fs
  | _, _, _ => False

theorem ColumnAttrs.ofLog_append (hx : ∀ e ∈ x, e.call.isAttrGet = false)
    (hy : ∀ e ∈ y, e.call.isAttrGet = false) :
    ColumnAttrs.ofLog eh col (x ++ (w ++ y)) = ColumnAttrs.ofLog eh col w := by
  simp only [ColumnAttrs.ofLog, attrRead_append_left hx, attrRead_append_right hy]

theorem define_isAttrGet : ∀ e ∈ (self.define T fields tpe size pos lib h).2,
    e.call.isAttrGet = false := by
  rw [define_snd]
  rintro e (_ | ⟨_, he⟩)
  · rfl
  · exact errorGet_isAttrGet ((checkError_issues _ _).of_eq rfl) e he

theorem defineColumn_defines (hr : self.defineColumn T fields pos lib h = (.ok fs, w)) :
    ∃ f, fs = fields ++ [f] ∧ DefinesColumn self T pos w f := by
  obtain ⟨w', hk, rfl⟩ := native_bind_inv hr
  obtain ⟨_, w₁, w₂, h₁, h₂, rfl⟩ := bind_eq_ok hk
  obtain ⟨⟨tpe, size⟩, w₃, w₄, h₃, h₄, rfl⟩ := bind_eq_ok h₂
  obtain ⟨e, t, he, hc, ht, rfl⟩ := define_ok T (congrArg Prod.fst h₄)
  obtain rfl : (self.define T fields tpe size pos lib _).2 = w₄ := congrArg Prod.snd h₄
  refine ⟨_, rfl, _, e, tpe, size, rfl, ?_, hc, ?_, ht, rfl⟩
  · simp only [List.filter_cons, List.filter_append, checkError_quiet.filter_eq_nil h₁,
      getAttrTypeAndSize_quiet.filter_eq_nil h₃, he]
    rfl
  · rw [← List.cons_append, ColumnAttrs.ofLog_append (fun x hx => ?_) (define_isAttrGet T)]
    · exact getAttrTypeAndSize_ofLog h₃
    · rcases List.mem_cons.1 hx with rfl | hx
      · rfl
      · exact errorGet_isAttrGet ((checkError_issues _ _).of_eq h₁) x hx

theorem defineColumns_defines (hr : self.defineColumns T i n fields lib h = (.ok fs, w)) :
    ∃ segs news, w = segs.flatten ∧ fs = fields ++ news ∧ segs.length = n ∧
      DefinesColumns self T i segs news := by
  induction n generalizing i fields h fs w with
  | zero =>
    cases hr
    exact ⟨[], [], rfl, by simp, rfl, trivial⟩
  | succ n ih =>
    obtain ⟨fs₁, w₁, w₂, h₁, h₂, rfl⟩ := bind_eq_ok hr
    obtain ⟨f, rfl, hf⟩ := defineColumn_defines T (onAbort_eq_ok h₁)
    obtain ⟨segs, news, rfl, rfl, hn, hs⟩ := ih h₂
    exact ⟨w₁ :: segs, f :: news, rfl, by simp, by simp [hn], hf, hs⟩

theorem dropFields_calls (fs : List (Field τ)) (lib : Lib) (h : List Entry) :
    (dropFields fs lib h : Exit ε Unit × _).2.map (·.call) =
      fs.map fun f => .handleFree f.inner OCI_HTYPE_DEFINE := by
  induction fs generalizing h with
  | nil => rfl
  | cons f fs ih =>
    rw [dropFields, bind_snd]
    simp [Field.drop, ih]

theorem defineColumns_fails (hr : self.defineColumns T i n fields lib h = (e, w))
    (ha : e.Aborts) :
    ∃ segs news, segs.length < n ∧ DefinesColumns self T i segs news ∧
      segs.flatten.filterMap (·.call.columnOp) = columnOps i segs.length ∧
      (self.defineColumn T (fields ++ news) (i + segs.length + 1) lib (h ++ segs.flatten)).1.Aborts ∧
      ∃ frees, w = segs.flatten ++
          (self.defineColumn T (fields ++ news) (i + segs.length + 1) lib (h ++ segs.flatten)).2 ++
          frees ∧
        frees.map (·.call) = (fields ++ news).map fun f => .handleFree f.inner OCI_HTYPE_DEFINE := by
  induction n generalizing i fields h e w with
  | zero =>
    cases hr
    exact ha.elim
  | succ n ih =>
    rcases bind_inv hr with ⟨fs₁, w₁, w₂, h₁, h₂, rfl⟩ | ⟨-, hab, rfl⟩
    · have hc := onAbort_eq_ok h₁
      obtain ⟨f, rfl, hf⟩ := defineColumn_defines T hc
      have hops := (defineColumn_columnOps T hc).resolve_left fun ⟨h, _⟩ => h
      obtain ⟨segs, news, hn, hs, hops', hab, frees, rfl, hfr⟩ := ih h₂ ha
      have hi : i + 1 + segs.length + 1 = i + (w₁ :: segs).length + 1 := by
        simp only [List.length_cons]
        omega
      refine ⟨w₁ :: segs, f :: news, by simp; omega, ⟨hf, hs⟩, ?_, ?_, frees, ?_, ?_⟩
      · simp only [List.flatten_cons, List.filterMap_append, hops, hops', List.length_cons,
          columnOps]
        rfl
      · simpa only [hi, List.append_assoc, List.flatten_cons, List.singleton_append,
          List.cons_append, List.nil_append] using hab
      · simp only [hi, List.append_assoc, List.flatten_cons, List.singleton_append,
          List.cons_append, List.nil_append]
      · simpa using hfr
    · rw [onAbort_fst] at hab
      refine ⟨[], [], by simp, trivial, rfl, by simpa using hab, _,
        by simpa using onAbort_snd_of_aborts (dropFields fields) hab, ?_⟩
      simp [dropFields_calls]

def Statement.executeCall (self : Statement) : Call :=
  .stmtExecute self.connection.serviceHandle self.innerStatement self.errorHandle
    (if self.isSelect then 0 else 1)

def Statement.columnCountCall (self : Statement) : Call :=
  .attrGet self.innerStatement OCI_HTYPE_STMT OCI_ATTR_PARAM_COUNT self.errorHandle

theorem run_snd : (self.run lib h).2 = ⟨self.executeCall, lib h self.executeCall⟩ ::
    (checkError self.errorHandle (lib h self.executeCall).status lib
      (h ++ [⟨self.executeCall, lib h self.executeCall⟩])).2 := rfl

theorem getColumnCount_ok (hr : self.getColumnCount lib h = (.ok n, w)) :
    ∃ w', w = ⟨self.columnCountCall, lib h self.columnCountCall⟩ :: w' ∧
      n = (lib h self.columnCountCall).value % 2 ^ 32 ∧
      ∀ e ∈ w', e.call = errorGetCall self.errorHandle := by
  obtain ⟨w', hk, rfl⟩ := native_bind_inv hr
  obtain ⟨_, w₁, w₂, h₁, h₂, rfl⟩ := bind_eq_ok hk
  simp only [pure_apply, Prod.mk.injEq, Exit.ok.injEq] at h₂
  obtain ⟨rfl, rfl⟩ := h₂
  exact ⟨_, rfl, rfl, by simpa using (checkError_issues _ _).of_eq h₁⟩

def AfterRunCall (self : Statement) (c : Call) : Prop :=
  c = self.columnCountCall ∨ c = errorGetCall self.errorHandle ∨ DefinePhaseCall self c

theorem defineAllColumns_issues : Issues (AfterRunCall self) (self.defineAllColumns T) :=
  .bind (.bind (.native (.inl rfl)) fun _ => .bind ((checkError_issues _ _).mono
    fun _ hc => .inr (.inl hc)) fun _ => .pure _) fun _ =>
    (defineColumns_issues T).mono fun _ hc => .inr (.inr hc)

theorem AfterRunCall.isExecute (hc : AfterRunCall self c) : c.isExecute = false := by
  rcases hc with rfl | rfl | ⟨_, rfl⟩ | ⟨_, ⟨_, rfl⟩ | rfl⟩ | ⟨_, _, _, _, _, rfl⟩ | ⟨_, rfl⟩ <;>
    rfl

theorem getColumnCount_quiet : Quiet self.getColumnCount :=
  .bind (.native rfl) fun _ => .bind checkError_quiet fun _ => .pure _

theorem defineColumns_ok_columnOps (hr : self.defineColumns T i n fields lib h = (.ok fs, w)) :
    w.filterMap (·.call.columnOp) = columnOps i n :=
  ((defineColumns_columnOps T hr).resolve_right fun ⟨ha, _⟩ => ha).2

theorem defineAllColumns_columnOps (hr : self.defineAllColumns T lib h = (e, w)) :
    ∃ k, w.filterMap (·.call.columnOp) = columnOps 0 k ∨
      w.filterMap (·.call.columnOp) = columnOps 0 k ++ [(false, BitVec.ofNat 32 (k + 1))] := by
  rcases bind_inv hr with ⟨n, w₁, w₂, h₁, h₂, rfl⟩ | ⟨-, -, rfl⟩
  · rw [List.filterMap_append, getColumnCount_quiet.filterMap_eq_nil h₁, List.nil_append]
    rcases defineColumns_columnOps T h₂ with ⟨-, h₂⟩ | ⟨-, m, -, h₂ | h₂⟩
    · exact ⟨n, .inl h₂⟩
    · exact ⟨m, .inr (by rw [h₂, Nat.zero_add])⟩
    · exact ⟨m + 1, .inl h₂⟩
  · exact ⟨0, .inl (getColumnCount_quiet.filterMap_snd _ _)⟩

theorem run_quiet : Quiet self.run :=
  .bind (.native rfl) fun _ => checkError_quiet

theorem run_countP_isExecute : (self.run lib h).2.countP (·.call.isExecute) = 1 := by
  rw [run_snd, List.countP_cons, List.countP_eq_zero.2 fun e he => by
    simp [(checkError_issues _ _).of_eq rfl e he, errorGetCall, Call.isExecute]]
  rfl

theorem DefinesColumns.length_eq : ∀ {i segs} {fs : List (Field τ)},
    DefinesColumns self T i segs fs → fs.length = segs.length
  | _, [], [], _ => rfl
  | _, _ :: _, _ :: _, ⟨_, hs⟩ => congrArg (· + 1) hs.length_eq

theorem defineAllColumns_defines (hr : self.defineAllColumns T lib h = (.ok fs, w)) :
    w.filterMap (·.call.columnOp) = columnOps 0 fs.length ∧
      ∃ w₁ segs, self.getColumnCount lib h = (.ok fs.length, w₁) ∧ w = w₁ ++ segs.flatten ∧
        DefinesColumns self T 0 segs fs := by
  obtain ⟨n, w₁, w₂, h₁, h₂, rfl⟩ := bind_eq_ok hr
  have hops := defineColumns_ok_columnOps T h₂
  obtain ⟨segs, news, rfl, rfl, rfl, hs⟩ := defineColumns_defines T h₂
  rw [hs.length_eq, List.filterMap_append, getColumnCount_quiet.filterMap_eq_nil h₁, hops]
  exact ⟨rfl, w₁, segs, h₁, rfl, hs⟩

/-- How a run of `define_all_columns` from `h` that ended early, with the log `w`, ended. -/
def DefineAllColumnsFails (self : Statement) (T : DataTypeOps τ) (lib : Lib)
    (h w : List Entry) : Prop :=
  (self.getColumnCount lib h).1.Aborts ∧ w = (self.getColumnCount lib h).2 ∨
    ∃ n w₁ segs fs, self.getColumnCount lib h = (.ok n, w₁) ∧ segs.length < n ∧
      DefinesColumns self T 0 segs fs ∧
      (self.defineColumn T fs (segs.length + 1) lib (h ++ w₁ ++ segs.flatten)).1.Aborts ∧
      (w.filterMap (·.call.columnOp)).getLast?.map Prod.snd =
        some (BitVec.ofNat 32 (segs.length + 1)) ∧
      ∃ frees, w = w₁ ++ segs.flatten ++
          (self.defineColumn T fs (segs.length + 1) lib (h ++ w₁ ++ segs.flatten)).2 ++ frees ∧
        frees.map (·.call) = fs.map fun f => .handleFree f.inner OCI_HTYPE_DEFINE

theorem defineAllColumns_fails (hr : self.defineAllColumns T lib h = (e, w)) (ha : e.Aborts) :
    DefineAllColumnsFails self T lib h w := by
  rcases bind_inv hr with ⟨n, w₁, w₂, h₁, h₂, rfl⟩ | ⟨-, hc, rfl⟩
  · obtain ⟨segs, news, hn, hs, hops, hab, frees, rfl, hfr⟩ := defineColumns_fails T h₂ ha
    rw [List.nil_append, Nat.zero_add] at *
    refine .inr ⟨n, w₁, segs, news, h₁, hn, hs, hab, ?_, frees,
      by simp only [List.append_assoc], hfr⟩
    have hfrees : frees.filterMap (·.call.columnOp) = [] := by
      rw [← Function.comp_def, ← List.filterMap_map, hfr, List.filterMap_map]
      exact List.filterMap_eq_nil_iff.2 fun _ _ => rfl
    rcases hdc : self.defineColumn T news (segs.length + 1) lib (h ++ w₁ ++ segs.flatten) with
      ⟨e', w'⟩
    rcases defineColumn_columnOps T hdc with ⟨-, hd⟩ | hd <;>
    simp [List.filterMap_append, getColumnCount_quiet.filterMap_eq_nil h₁, hops, hd, hfrees]
  · exact .inl ⟨hc, rfl⟩

/-- What a run of `run_with_cursor` from `h`, ending as `r`, does. -/
structure RunsWithCursor (self : Statement) (T : DataTypeOps τ) (lib : Lib) (h : List Entry)
    (r : Exit Error (Cursor τ) × List Entry) : Prop where
  execute : (∃ rep, r.2.head? = some ⟨self.executeCall, rep⟩) ∧
    r.2.countP (·.call.isExecute) = 1
  afterRun : ∃ w, r.2 = (self.run lib h).2 ++ w ∧ (w ≠ [] → (self.run lib h).1 = .ok ())
  columns : ∃ k, r.2.filterMap (·.call.columnOp) = columnOps 0 k ∨
    r.2.filterMap (·.call.columnOp) = columnOps 0 k ++ [(false, BitVec.ofNat 32 (k + 1))]
  cursor : ∀ c, r.1 = .ok c → c.stmt = self ∧ c.currentRow = 0 ∧
    (∃ rep, ⟨self.columnCountCall, rep⟩ ∈ r.2 ∧ c.results.length = rep.value % 2 ^ 32) ∧
    r.2.filterMap (·.call.columnOp) = columnOps 0 c.results.length ∧
    ∃ w₀ w₁ segs, self.run lib h = (.ok (), w₀) ∧
      self.getColumnCount lib (h ++ w₀) = (.ok c.results.length, w₁) ∧
      r.2 = w₀ ++ w₁ ++ segs.flatten ∧ DefinesColumns self T 0 segs c.results
  fails : r.1.Aborts → (self.run lib h).1.Aborts ∧ r.2 = (self.run lib h).2 ∨
    ∃ w₀ w, self.run lib h = (.ok (), w₀) ∧ r.2 = w₀ ++ w ∧
      DefineAllColumnsFails self T lib (h ++ w₀) w

/-- Every run of `run_with_cursor`, on every library, is as `RunsWithCursor` says. -/
theorem runWithCursor_runs (T : DataTypeOps τ) (self : Statement) (lib : Lib) (h : List Entry) :
    RunsWithCursor self T lib h (self.runWithCursor T lib h) := by
  rcases hr : self.runWithCursor T lib h with ⟨e, w⟩
  obtain ⟨w', rfl, hrun, hcalls, hcols, hok, hfail⟩ : ∃ w', w = (self.run lib h).2 ++ w' ∧
      (w' ≠ [] → (self.run lib h).1 = .ok ()) ∧ (∀ x ∈ w', AfterRunCall self x.call) ∧
      (∃ k, w'.filterMap (·.call.columnOp) = columnOps 0 k ∨
        w'.filterMap (·.call.columnOp) = columnOps 0 k ++ [(false, BitVec.ofNat 32 (k + 1))]) ∧
      (∀ c, e = .ok c → (self.run lib h).1 = .ok () ∧ ∃ fs,
        self.defineAllColumns T lib (h ++ (self.run lib h).2) = (.ok fs, w') ∧
        c = Cursor.new self fs) ∧
      (e.Aborts → (self.run lib h).1.Aborts ∧ w' = [] ∨ (self.run lib h).1 = .ok () ∧
        DefineAllColumnsFails self T lib (h ++ (self.run lib h).2) w') := by
    rcases bind_inv hr with ⟨_, w₁, w₂, h₁, h₂, rfl⟩ | ⟨ha, hm, rfl⟩
    · obtain rfl : (self.run lib h).2 = w₁ := congrArg Prod.snd h₁
      have hrun : (self.run lib h).1 = .ok () := congrArg Prod.fst h₁
      refine ⟨w₂, rfl, fun _ => hrun, ?_⟩
      rcases bind_inv h₂ with ⟨fs, w₃, w₄, h₃, h₄, rfl⟩ | ⟨ha, hd, rfl⟩
      · simp only [pure_apply, Prod.mk.injEq] at h₄
        obtain ⟨rfl, rfl⟩ := h₄
        rw [List.append_nil]
        refine ⟨(defineAllColumns_issues T).of_eq h₃, defineAllColumns_columnOps T h₃,
          fun c hc => ⟨hrun, fs, h₃, (Exit.ok.inj hc).symm⟩, nofun⟩
      · refine ⟨(defineAllColumns_issues T).of_eq rfl, defineAllColumns_columnOps T rfl,
          fun c hc => (hc ▸ ha).elim, fun _ => .inr ⟨hrun, defineAllColumns_fails T rfl hd⟩⟩
    · refine ⟨[], by simp, fun h => (h rfl).elim, by simp, ⟨0, .inl rfl⟩,
        fun c hc => (hc ▸ ha).elim, fun _ => .inl ⟨hm, rfl⟩⟩
  have hq := (run_quiet : Quiet self.run).filterMap_snd lib h
  refine ⟨⟨⟨_, by rw [run_snd]; rfl⟩, ?_⟩, ⟨w', rfl, hrun⟩, ?_, ?_, ?_⟩
  · rw [List.countP_append, run_countP_isExecute, List.countP_eq_zero.2]
    exact fun x hx => by simp [(hcalls x hx).isExecute]
  · simpa [List.filterMap_append, hq] using hcols
  · rintro c rfl
    obtain ⟨hr₀, fs, hd, rfl⟩ := hok _ rfl
    obtain ⟨hops, w₁, segs, hn, rfl, hs⟩ := defineAllColumns_defines T hd
    obtain ⟨w₂, rfl, hv, -⟩ := getColumnCount_ok hn
    refine ⟨rfl, rfl, ⟨_, by simp, hv⟩, by rw [List.filterMap_append, hq, List.nil_append]; exact hops,
      _, _, segs, Prod.ext hr₀ rfl, hn, by simp only [List.append_assoc], hs⟩
  · intro ha
    rcases hfail ha with ⟨hr₀, rfl⟩ | ⟨hr₀, hf⟩
    · exact .inl ⟨hr₀, List.append_nil _⟩
    · exact .inr ⟨_, w', Prod.ext hr₀ rfl, rfl, hf⟩

def columnsLib (n : Nat) (d : ColumnAttrs) : Lib := fun h c =>
  match c with
  | .attrGet _ htype _ _ => if htype = OCI_HTYPE_STMT then { value := n } else describingLib d h c
  | _ => {}

/-- Type conversions that keep the raw codes. -/
def rawTypes : DataTypeOps Nat := ⟨SQLT_BFLOAT, SQLT_STR, id, some⟩

end DieselOci

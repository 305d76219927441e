import DieselOci.Cursor

namespace DieselOci
set_option autoImplicit true

open Oci

variable (T : DataTypeOps τ) [DecidableEq τ]

/-- The statement as `bind` leaves it, whatever the status of the native bind. -/
def Statement.bound (self : Statement) (value : Option (List UInt8)) : Statement :=
  { self with
    bindIndex := self.bindIndex + 1
    buffers := self.buffers ++ [(bindBuffer value).1]
    sizes := self.sizes ++ [(bindBuffer value).2.1]
    indicators := self.indicators ++ [(bindBuffer value).2.2] }

@[simp] theorem Statement.bound_bindIndex (self : Statement) (value : Option (List UInt8)) :
    (self.bound value).bindIndex = self.bindIndex + 1 := rfl

@[simp] theorem Statement.bound_buffers (self : Statement) (value : Option (List UInt8)) :
    (self.bound value).buffers = self.buffers ++ [(bindBuffer value).1] := rfl

@[simp] theorem Statement.bound_sizes (self : Statement) (value : Option (List UInt8)) :
    (self.bound value).sizes = self.sizes ++ [(bindBuffer value).2.1] := rfl

@[simp] theorem Statement.bound_indicators (self : Statement) (value : Option (List UInt8)) :
    (self.bound value).indicators = self.indicators ++ [(bindBuffer value).2.2] := rfl

@[simp] theorem Statement.bound_innerStatement (self : Statement) (value : Option (List UInt8)) :
    (self.bound value).innerStatement = self.innerStatement := rfl

@[simp] theorem Statement.bound_connection (self : Statement) (value : Option (List UInt8)) :
    (self.bound value).connection = self.connection := rfl

def Statement.bindCall (self : Statement) (tpe : τ) (value : Option (List UInt8)) : Call :=
  .bindByPos self.innerStatement self.errorHandle (self.bindIndex + 1) (bindBuffer value).1
    (BitVec.ofNat 32 (bindBuffer value).1.length)
    (if (bindBuffer value).2.1 = 4 ∧ tpe = T.float then BitVec.ofNat 16 SQLT_BFLOAT
      else BitVec.ofNat 16 (T.toRaw tpe))
    (bindBuffer value).2.2

def Statement.charsetCall (self : Statement) (bindHandle : Nat) : Call :=
  .attrSet bindHandle OCI_HTYPE_BIND (.charset self.connection.env.csId) 0 OCI_ATTR_CHARSET_ID
    self.errorHandle

theorem Statement.bind_apply (self : Statement) (tpe : τ) (value : Option (List UInt8)) (lib : Lib)
    (h : List Entry) :
    self.bind T tpe value lib h =
      let c := self.bindCall T tpe value
      let h' := h ++ [⟨c, lib h c⟩]
      match checkError self.errorHandle (lib h c).status lib h' with
      | (.ok (), w) =>
        if tpe = T.char then
          (.ok (self.bound value, .ok ()), ⟨c, lib h c⟩ :: (w ++
            [⟨self.charsetCall (lib h c).handle, lib (h' ++ w) (self.charsetCall (lib h c).handle)⟩]))
        else (.ok (self.bound value, .ok ()), ⟨c, lib h c⟩ :: w)
      | (.err e, w) => (.ok (self.bound value, .error e), ⟨c, lib h c⟩ :: w)
      | (.panic s, w) => (.panic s, ⟨c, lib h c⟩ :: w) := by
  cases value <;>
  · simp only [Statement.bind, Statement.bindCall, Statement.bound, Statement.charsetCall,
      bindBuffer, native_bind, attempt_bind]
    rcases hc : checkError self.errorHandle _ lib _ with ⟨⟨⟩ | e | s, w⟩
    · rw [bind_of_ok hc]
      by_cases ht : tpe = T.char <;> simp [ht]
    · rw [bind_of_err hc]
      simp
    · rw [bind_of_panic hc]

/-- `bind` on each argument in turn, on the statement the call before left; a panic ends it. -/
def Statement.bindEach (self : Statement) : List (τ × Option (List UInt8)) →
    Oci Error (Statement × List (Except Error Unit))
  | [] => pure (self, [])
  | (tpe, value) :: args => do
    let (s, r) ← self.bind T tpe value
    let (s, rs) ← s.bindEach args
    return (s, r :: rs)

def Statement.bindCalls (self : Statement) : List (τ × Option (List UInt8)) → List Call
  | [] => []
  | (tpe, value) :: args => self.bindCall T tpe value :: (self.bound value).bindCalls args

def Statement.boundAll (self : Statement) (values : List (Option (List UInt8))) : Statement :=
  values.foldl Statement.bound self

@[simp] theorem Statement.boundAll_nil (self : Statement) : self.boundAll [] = self := rfl

@[simp] theorem Statement.boundAll_cons (self : Statement) :
    self.boundAll (v :: vs) = (self.bound v).boundAll vs := rfl

def Call.isBind : Call → Bool
  | .bindByPos .. => true
  | _ => false

def Call.charsetTarget? : Call → Option Nat
  | .attrSet target _ (.charset _) _ _ _ => some target
  | _ => none

@[simp] theorem Call.isBind_bindByPos :
    (Call.bindByPos stmt err pos buf len dty ind).isBind = true := rfl

@[simp] theorem Call.isBind_attrSet : (Call.attrSet t htype v size attr err).isBind = false := rfl

@[simp] theorem Call.charsetTarget?_bindByPos :
    (Call.bindByPos stmt err pos buf len dty ind).charsetTarget? = none := rfl

@[simp] theorem Call.charsetTarget?_attrSet :
    (Call.attrSet t htype (.charset cs) size attr err).charsetTarget? = some t := rfl

variable {self : Statement} {lib : Lib} {h w : List Entry}

theorem errorGet_bind_free {e : Entry} (he : e.call = errorGetCall eh) :
    e.call.isBind = false ∧ e.call.charsetTarget? = none := by
  rw [he]
  exact ⟨rfl, rfl⟩

theorem checkError_bind_free (hc : checkError eh s lib h = (x, w)) :
    w.filter (·.call.isBind) = [] ∧ w.filterMap (·.call.charsetTarget?) = [] :=
  have hw := (checkError_issues eh s).of_eq hc
  ⟨List.filter_eq_nil_iff.2 fun e he => by simp [(errorGet_bind_free (hw e he)).1],
    List.filterMap_eq_nil_iff.2 fun e he => (errorGet_bind_free (hw e he)).2⟩

theorem bind_ok (hr : self.bind T tpe value lib h = (.ok (s', res), w)) :
    s' = self.bound value ∧ ∃ r, w.filter (·.call.isBind) = [⟨self.bindCall T tpe value, r⟩] ∧
      w.filterMap (·.call.charsetTarget?) =
        if tpe = T.char ∧ res.isOk then [r.handle] else [] := by
  rw [Statement.bind_apply] at hr
  dsimp only at hr
  split at hr
  · next w₁ hc =>
    obtain ⟨hb, hs⟩ := checkError_bind_free hc
    by_cases ht : tpe = T.char <;>
      simp only [ht, if_true, if_false, Prod.mk.injEq, Exit.ok.injEq] at hr <;>
      obtain ⟨⟨rfl, rfl⟩, rfl⟩ := hr <;>
      simp [hb, hs, ht, Statement.bindCall, Statement.charsetCall, Except.isOk, Except.toBool]
  · next e w₁ hc =>
    obtain ⟨hb, hs⟩ := checkError_bind_free hc
    simp only [Prod.mk.injEq, Exit.ok.injEq] at hr
    obtain ⟨⟨rfl, rfl⟩, rfl⟩ := hr
    simp [hb, hs, Statement.bindCall, Except.isOk, Except.toBool]
  · cases hr

/-- A sequence of `bind` calls that returns: its statement, results, native binds and charsets. -/
theorem bindEach_ok (hr : self.bindEach T args lib h = (.ok (s', rs), w)) :
    s' = self.boundAll (args.map (·.2)) ∧ rs.length = args.length ∧
      (w.filter (·.call.isBind)).map (·.call) = self.bindCalls T args ∧
      w.filterMap (·.call.charsetTarget?) = ((w.filter (·.call.isBind)).zip (args.zip rs)).filterMap
        fun (e, a, r) => if a.1 = T.char ∧ r.isOk then some e.reply.handle else none := by
  induction args generalizing self h s' rs w with
  | nil =>
    cases hr
    exact ⟨rfl, rfl, rfl, rfl⟩
  | cons a args ih =>
    obtain ⟨tpe, value⟩ := a
    obtain ⟨⟨s₁, r₁⟩, w₁, w', h₁, hk, rfl⟩ := bind_eq_ok hr
    obtain ⟨⟨s₂, rs₂⟩, w₂, w₃, h₂, hp, rfl⟩ := bind_eq_ok hk
    simp only [pure_apply, Prod.mk.injEq, Exit.ok.injEq] at hp
    obtain ⟨⟨rfl, rfl⟩, rfl⟩ := hp
    obtain ⟨rfl, r, hb, hs⟩ := bind_ok T h₁
    obtain ⟨rfl, hn, hc, hcs⟩ := ih h₂
    refine ⟨rfl, by simp [hn], ?_, ?_⟩
    · simp [List.filter_append, hb, hc, Statement.bindCalls]
    · rw [List.append_nil, List.filterMap_append, hs, hcs, List.filter_append, hb]
      by_cases hr₁ : tpe = T.char ∧ r₁.isOk <;> simp [hr₁]

theorem bindEach_ok_text_then_null :
    sampleStatement.bindEach ⟨SQLT_BFLOAT, SQLT_STR, id, some⟩
        [(SQLT_STR, some [104, 105]), (SQLT_INT, none)] (fun _ _ => {}) [] =
      (.ok (sampleStatement.boundAll [some [104, 105], none], [.ok (), .ok ()]),
        [⟨sampleStatement.bindCall ⟨SQLT_BFLOAT, SQLT_STR, id, some⟩ SQLT_STR (some [104, 105]), {}⟩,
          ⟨sampleStatement.charsetCall 0, {}⟩,
          ⟨(sampleStatement.bound (some [104, 105])).bindCall ⟨SQLT_BFLOAT, SQLT_STR, id, some⟩
            SQLT_INT none, {}⟩]) ∧
      ([⟨sampleStatement.bindCall ⟨SQLT_BFLOAT, SQLT_STR, id, some⟩ SQLT_STR (some [104, 105]), {}⟩,
          ⟨sampleStatement.charsetCall 0, {}⟩,
          ⟨(sampleStatement.bound (some [104, 105])).bindCall ⟨SQLT_BFLOAT, SQLT_STR, id, some⟩
            SQLT_INT none, {}⟩] : List Entry).filterMap (·.call.charsetTarget?) = [0] := by
  have hr : sampleStatement.bindEach (⟨SQLT_BFLOAT, SQLT_STR, id, some⟩ : DataTypeOps Nat)
        [(SQLT_STR, some [104, 105]), (SQLT_INT, none)] (fun _ _ => {}) [] =
      (.ok (sampleStatement.boundAll [some [104, 105], none], [.ok (), .ok ()]),
        [⟨sampleStatement.bindCall ⟨SQLT_BFLOAT, SQLT_STR, id, some⟩ SQLT_STR (some [104, 105]), {}⟩,
          ⟨sampleStatement.charsetCall 0, {}⟩,
          ⟨(sampleStatement.bound (some [104, 105])).bindCall ⟨SQLT_BFLOAT, SQLT_STR, id, some⟩
            SQLT_INT none, {}⟩]) := rfl
  exact ⟨hr, by rw [(bindEach_ok _ hr).2.2.2]; decide⟩

theorem bind_head (self : Statement) (tpe : τ) (value : Option (List UInt8)) (lib : Lib)
    (h : List Entry) :
    (self.bind T tpe value lib h).2.head?.map (·.call) = some (self.bindCall T tpe value) := by
  rw [Statement.bind_apply]
  dsimp only
  split
  · split_ifs <;> rfl
  all_goals rfl

/-- A `Float` of `2 ^ 32 + 4` bytes is bound as `SQLT_BFLOAT` with the length 4. -/
theorem bind_float_wrapped_length (self : Statement) (lib : Lib) (h : List Entry) :
    (self.bind T T.float (some (List.replicate (2 ^ 32 + 4) 0)) lib h).2.head?.map (·.call) =
        some (.bindByPos self.innerStatement self.errorHandle (self.bindIndex + 1)
          (List.replicate (2 ^ 32 + 4) 0) 4 (BitVec.ofNat 16 SQLT_BFLOAT) 0) ∧
      (List.replicate (2 ^ 32 + 4) (0 : UInt8)).length ≠ 4 := by
  have h4 : BitVec.ofNat 32 (List.replicate (2 ^ 32 + 4) (0 : UInt8)).length = 4 := by
    rw [List.length_replicate]
    decide
  refine ⟨?_, by rw [List.length_replicate]; decide⟩
  rw [bind_head, Statement.bindCall, bindBuffer, h4, if_pos ⟨rfl, rfl⟩]

end DieselOci

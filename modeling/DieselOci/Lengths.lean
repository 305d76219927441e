import DieselOci.Bind
import DieselOci.Columns

namespace DieselOci
set_option autoImplicit true

open Oci

theorem toInt_ofNat_eq_iff : (BitVec.ofNat 32 n).toInt = n ↔ n < 2 ^ 31 := by
  rw [BitVec.toInt_eq_toNat_cond, BitVec.toNat_ofNat]
  split_ifs <;> omega

theorem toNat_ofNat_eq_iff : (BitVec.ofNat 32 n).toNat = n ↔ n < 2 ^ 32 := by
  rw [BitVec.toNat_ofNat]
  omega

/-- The length arguments of a call are the lengths of the buffers they describe. -/
def Call.LengthsExact : Call → Prop
  | .stmtPrepare2 _ _ text len => len.toNat = text.utf8ByteSize
  | .serverAttach _ _ dblink len => len.toInt = dblink.utf8ByteSize
  | .attrSet _ _ (.text s) size _ _ => size.toNat = s.utf8ByteSize
  | .bindByPos _ _ _ buf len _ _ => len.toInt = buf.length
  | .defineByPos _ _ _ buf len _ _ => len.toInt = buf.length
  | _ => True

theorem checkError_lengthsExact : Issues Call.LengthsExact (checkError eh s) :=
  (checkError_issues eh s).mono fun _ hc => hc ▸ trivial

theorem prepare_head (conn : RawConnection) (sql : String) (lib : Lib) (h : List Entry) :
    (Statement.prepare conn sql lib h).2.head?.map (·.call) =
      some (.stmtPrepare2 conn.serviceHandle conn.env.errorHandle sql
        (BitVec.ofNat 32 sql.utf8ByteSize)) := rfl

theorem utf8ByteSize_replicate_space (n : Nat) :
    (⟨List.replicate n ' '⟩ : String).utf8ByteSize = n := by
  show String.utf8ByteSize.go _ = n
  induction n with
  | zero => rfl
  | succ n ih =>
    rw [List.replicate_succ, String.utf8ByteSize.go, ih]
    rfl

variable {self : Statement}

theorem prepareCall_lengthsExact_iff :
    (Call.stmtPrepare2 svc eh sql (BitVec.ofNat 32 sql.utf8ByteSize)).LengthsExact ↔
      sql.utf8ByteSize < 2 ^ 32 :=
  toNat_ofNat_eq_iff

theorem prepare_lengthsExact (hs : sql.utf8ByteSize < 2 ^ 32) :
    Issues Call.LengthsExact (Statement.prepare conn sql) := by
  have hc : (Call.stmtPrepare2 conn.serviceHandle conn.env.errorHandle sql
      (BitVec.ofNat 32 sql.utf8ByteSize)).LengthsExact := prepareCall_lengthsExact_iff.2 hs
  refine .bind (.native hc) fun r => .bind checkError_lengthsExact fun _ => ?_
  dsimp only
  split
  · split_ifs
    · exact .bind (.native hc) fun _ => .bind checkError_lengthsExact fun _ =>
        .bind (.pure _) fun _ => .pure _
    · exact .bind (.pure _) fun _ => .pure _
  · exact .bind (.pure _) fun _ => .pure _

variable (T : DataTypeOps τ)

theorem defineCall_lengthsExact_iff :
    (self.defineCall tpe size pos).LengthsExact ↔ size < 2 ^ 31 := by
  simp only [Statement.defineCall, Call.LengthsExact, List.length_replicate]
  exact toInt_ofNat_eq_iff

variable [DecidableEq τ]

theorem bindCall_lengthsExact_iff :
    (self.bindCall T tpe (some v)).LengthsExact ↔ v.length < 2 ^ 31 :=
  toInt_ofNat_eq_iff

theorem bind_lengthsExact (hv : ∀ v, value = some v → v.length < 2 ^ 31) :
    Issues Call.LengthsExact (self.bind T tpe value) := by
  have hb : (self.bindCall T tpe value).LengthsExact := by
    cases value with
    | none => exact (toInt_ofNat_eq_iff (n := 0)).2 (by omega)
    | some v => exact (bindCall_lengthsExact_iff T).2 (hv v rfl)
  refine .bind (.native hb) fun r => .bind (.attempt (.bind checkError_lengthsExact fun _ => ?_))
    fun _ => .pure _
  split_ifs
  · exact .bind (.native trivial) fun _ => .pure _
  · exact .pure _

theorem bindEach_lengthsExact (args : List (τ × Option (List UInt8)))
    (hv : ∀ a ∈ args, ∀ v, a.2 = some v → v.length < 2 ^ 31) :
    Issues Call.LengthsExact (self.bindEach T args) := by
  induction args generalizing self with
  | nil => exact .pure _
  | cons a args ih =>
    exact .bind (bind_lengthsExact T (hv a (List.mem_cons_self _ _))) fun (s, _) =>
      .bind (ih (fun a ha => hv a (List.mem_cons_of_mem _ ha))) fun _ => .pure _

/-- Below the bounds of the casts every length the driver passes is exact. -/
theorem prepare_bindEach_lengthsExact (hs : sql.utf8ByteSize < 2 ^ 32)
    (hv : ∀ a ∈ args, ∀ v, a.2 = some v → v.length < 2 ^ 31) :
    Issues Call.LengthsExact (Statement.prepare conn sql >>= fun s => s.bindEach T args) :=
  .bind (prepare_lengthsExact hs) fun _ => bindEach_lengthsExact T args hv

theorem prepare_bindEach_lengthsExact_text :
    "SELECT :1".utf8ByteSize < 2 ^ 32 ∧
      (∀ a ∈ ([(SQLT_STR, some [104, 105])] : List (Nat × Option (List UInt8))), ∀ v,
        a.2 = some v → v.length < 2 ^ 31) ∧
      Issues Call.LengthsExact (Statement.prepare sampleConnection "SELECT :1" >>= fun s =>
        s.bindEach rawTypes [(SQLT_STR, some [104, 105])]) :=
  have hs : "SELECT :1".utf8ByteSize < 2 ^ 32 := by decide
  have hv : ∀ a ∈ ([(SQLT_STR, some [104, 105])] : List (Nat × Option (List UInt8))), ∀ v,
      a.2 = some v → v.length < 2 ^ 31 := by simp
  ⟨hs, hv, prepare_bindEach_lengthsExact rawTypes hs hv⟩

/-- Three inputs past the casts, whose first native call has a length that is not exact. -/
theorem lengths_wrap (self : Statement) (conn : RawConnection) (tpe : τ) (fields : List (Field τ))
    (tpe' pos : Nat) (lib : Lib) (h : List Entry) :
    (∃ e, (self.bind T tpe (some (List.replicate (2 ^ 31) 0)) lib h).2.head? = some e ∧
      ¬ e.call.LengthsExact) ∧
    (∃ e, (self.define T fields tpe' (2 ^ 31) pos lib h).2.head? = some e ∧
      ¬ e.call.LengthsExact) ∧
    (∃ e, (Statement.prepare conn ⟨List.replicate (2 ^ 32) ' '⟩ lib h).2.head? = some e ∧
      ¬ e.call.LengthsExact) := by
  refine ⟨?_, ⟨_, by rw [define_snd]; rfl, fun hc => ?_⟩, ?_⟩
  · obtain ⟨e, he, hc⟩ := Option.map_eq_some'.1 (bind_head T self tpe _ lib h)
    refine ⟨e, he, fun hx => ?_⟩
    rw [hc] at hx
    have := (bindCall_lengthsExact_iff T).1 hx
    rw [List.length_replicate] at this
    omega
  · have := defineCall_lengthsExact_iff.1 hc
    omega
  · obtain ⟨e, he, hc⟩ := Option.map_eq_some'.1 (prepare_head conn _ lib h)
    refine ⟨e, he, fun hx => ?_⟩
    rw [hc] at hx
    have := prepareCall_lengthsExact_iff.1 hx
    rw [utf8ByteSize_replicate_space] at this
    omega

end DieselOci

import DieselOci.FailStop

namespace DieselOci
set_option autoImplicit true

open Oci

def Entry.isPrepare (e : Entry) : Bool :=
  match e.call with
  | .stmtPrepare2 .. => true
  | _ => false

theorem prepares_none {m : Oci ε α} (hm : Issues (· = errorGetCall eh) m) (lib : Lib)
    (h : List Entry) : (m lib h).2.countP Entry.isPrepare = 0 :=
  hm.countP_eq_zero (fun ⟨_, _⟩ hc => by cases hc; rfl) lib h

theorem prepare_count (conn : RawConnection) (sql : String) (lib : Lib) (h : List Entry)
    (hfirst : ¬ Fails lib h (Statement.prepare conn sql lib h).2 0) :
    (Statement.prepare conn sql lib h).2.countP Entry.isPrepare =
      if ∃ u, strFind sql "CREATE" = some u ∧ u < 10 then 2 else 1 := by
  rw [Statement.prepare, native_bind] at hfirst ⊢
  rw [fails_zero_cons, fails_singleton] at hfirst
  have hok := checkError_of_not_rejected fun hr => hfirst (.inr ⟨_, rfl, hr⟩)
  dsimp only
  rw [bind_of_ok (Prod.ext hok rfl), List.countP_cons_of_pos _ _ rfl, List.countP_append,
    prepares_none (checkError_issues _ _)]
  rcases strFind sql "CREATE" with _ | u
  · simp
  · by_cases h10 : u < 10
    · dsimp only
      rw [if_pos h10, native_bind, List.countP_cons_of_pos _ _ rfl,
        prepares_none (.bind (checkError_issues _ _) fun _ => .bind (.pure _) fun _ => .pure _)]
      simp [h10]
    · simp [h10]

theorem strFind.go_lt_iff (pat : List Char) (b : Nat) : ∀ (cs : List Char) (off : Nat),
    (∃ u, strFind.go pat cs off = some u ∧ u < b) ↔
      ∃ i, pat <+: cs.drop i ∧ off + String.utf8Len (cs.take i) < b
  | [], off => by simp [strFind.go, and_assoc]
  | c :: cs, off => by
    by_cases hp : pat <+: c :: cs
    · rw [strFind.go, if_pos hp]
      exact ⟨fun ⟨_, hu, hb⟩ => ⟨0, hp, by simpa [← Option.some.inj hu] using hb⟩,
        fun ⟨i, _, hb⟩ => ⟨off, rfl, by omega⟩⟩
    · rw [strFind.go, if_neg hp, strFind.go_lt_iff pat b cs]
      constructor
      · rintro ⟨i, hi, hb⟩
        exact ⟨i + 1, hi, by simp; omega⟩
      · rintro ⟨_ | i, hi, hb⟩
        · exact absurd hi hp
        · exact ⟨i, hi, by simp at hb; omega⟩

theorem strFind_lt_iff (s pat : String) (b : Nat) :
    (∃ u, strFind s pat = some u ∧ u < b) ↔
      ∃ i, pat.data <+: s.data.drop i ∧ String.utf8Len (s.data.take i) < b := by
  rw [strFind, strFind.go_lt_iff]
  simp only [Nat.zero_add]

theorem length_le_utf8Len : ∀ l : List Char, l.length ≤ String.utf8Len l
  | [] => le_rfl
  | c :: l => by
    have := length_le_utf8Len l
    have := Char.utf8Size_pos c
    simp only [List.length_cons, String.utf8Len_cons]
    omega

theorem utf8Len_of_single_bytes :
    ∀ l : List Char, (∀ c ∈ l, c.utf8Size = 1) → String.utf8Len l = l.length
  | [], _ => rfl
  | c :: l, h => by
    simp only [String.utf8Len_cons, List.length_cons, h c (List.mem_cons_self c l),
      utf8Len_of_single_bytes l fun d hd => h d (List.mem_cons_of_mem c hd)]

theorem index_lt_of_utf8Len_lt {pat l : List Char} (hpat : pat ≠ []) (hi : pat <+: l.drop i)
    (hb : String.utf8Len (l.take i) < b) : i < b := by
  have hlen : i ≤ l.length := by
    by_contra hl
    rw [List.drop_eq_nil_of_le (by omega)] at hi
    exact hpat (List.prefix_nil.1 hi)
  have := length_le_utf8Len (l.take i)
  rw [List.length_take, Nat.min_eq_left hlen] at this
  omega

/-- `prepare` prepares twice exactly when `CREATE` starts within ten characters and bytes. -/
theorem prepare_twice_iff_create_in_ten_bytes (conn : RawConnection) (sql : String) (lib : Lib)
    (h : List Entry) (hfirst : ¬ Fails lib h (Statement.prepare conn sql lib h).2 0) :
    (Statement.prepare conn sql lib h).2.countP Entry.isPrepare =
        (if ∃ i < (10 : Nat), "CREATE".data <+: sql.data.drop i ∧
            String.utf8Len (sql.data.take i) < 10 then 2 else 1) ∧
      ((∀ c ∈ sql.data.take 10, c.utf8Size = 1) →
        ((∃ i < 10, "CREATE".data <+: sql.data.drop i ∧ String.utf8Len (sql.data.take i) < 10) ↔
          ∃ i < 10, "CREATE".data <+: sql.data.drop i)) := by
  refine ⟨?_, fun hascii => ⟨fun ⟨i, h10, hi, _⟩ => ⟨i, h10, hi⟩,
    fun ⟨i, h10, hi⟩ => ⟨i, h10, hi, ?_⟩⟩⟩
  · rw [prepare_count conn sql lib h hfirst]
    refine if_congr ((strFind_lt_iff _ _ _).trans ⟨fun ⟨i, hi, hb⟩ => ⟨i, ?_, hi, hb⟩,
      fun ⟨i, _, hi, hb⟩ => ⟨i, hi, hb⟩⟩) rfl rfl
    exact index_lt_of_utf8Len_lt (by decide) hi hb
  · have hsub : sql.data.take i = (sql.data.take 10).take i := by
      rw [List.take_take, Nat.min_eq_left h10.le]
    rw [utf8Len_of_single_bytes _ fun c hc => hascii c (List.mem_of_mem_take (hsub ▸ hc))]
    have := List.length_take_le i sql.data
    omega

theorem prepare_twice_create_table :
    ¬ Fails (fun _ _ => {}) []
        (Statement.prepare sampleConnection "CREATE TABLE t" (fun _ _ => {}) []).2 0 ∧
      (Statement.prepare sampleConnection "CREATE TABLE t" (fun _ _ => {}) []).2.countP
        Entry.isPrepare = 2 :=
  have hf := not_fails_of_status_zero (by rfl) rfl
  ⟨hf, (prepare_twice_iff_create_in_ten_bytes _ _ _ _ hf).1.trans (by decide)⟩

/-- Five two-byte characters before `CREATE`: the text is prepared once. -/
theorem prepare_once_after_wide_chars :
    ¬ Fails (fun _ _ => {}) []
        (Statement.prepare sampleConnection "éééééCREATE TABLE t" (fun _ _ => {}) []).2 0 ∧
      (∃ i < 10, "CREATE".data <+: "éééééCREATE TABLE t".data.drop i) ∧
      (Statement.prepare sampleConnection "éééééCREATE TABLE t" (fun _ _ => {}) []).2.countP
        Entry.isPrepare = 1 :=
  ⟨not_fails_of_status_zero (by rfl) rfl, ⟨5, by decide, by decide⟩, by decide⟩

end DieselOci

import DieselOci.CheckError

namespace DieselOci
set_option autoImplicit true

/-- The pieces of `str::split` with a non-empty pattern; `acc` is the current piece, reversed. -/
def splitStr.go (pat : List Char) : Nat → List Char → List Char → List (List Char)
  | _, [], acc => [acc.reverse]
  | skip + 1, _ :: cs, acc => go pat skip cs acc
  | 0, c :: cs, acc =>
    if pat <+: c :: cs then acc.reverse :: go pat (pat.length - 1) cs []
    else go pat 0 cs (c :: acc)

/-- `s.split(pat)` for a non-empty pattern. -/
def splitStr (s pat : String) : List String :=
  (splitStr.go pat.data 0 s.data []).map String.mk

/-- `String::pop`, its result dropped. -/
def pop (s : String) : String := ⟨s.data.dropLast⟩

/-- The panic message of `assert_eq!` on two numbers that differ. -/
def assertEqMessage (left right : Nat) : String :=
  "assertion `left == right` failed\n  left: " ++ toString left ++ "\n right: " ++ toString right

/-- `parse_db_string`. -/
def parseDbString (databaseUrl : String) : Exit ConnectionError (String × String × String) :=
  if !("oci://".data <+: databaseUrl.data) then
    .err (.invalidConnectionUrl ("Could not use " ++ databaseUrl ++ " with oci backend"))
  else
    match splitStr databaseUrl "//" with
    | [_, userandpw, dbUrl] =>
      match userandpw.data.splitOn '/' with
      | user :: password :: _ => .ok (⟨user⟩, pop ⟨password⟩, dbUrl)
      | _ => .panic "index out of bounds: the len is 1 but the index is 1"
    | splits => .panic (assertEqMessage splits.length 3)

theorem intercalate_singleton (sep x : List α) : sep.intercalate [x] = x := by
  simp [List.intercalate]

theorem intercalate_cons_of_ne_nil (sep x : List α) (hxs : xs ≠ []) :
    sep.intercalate (x :: xs) = x ++ sep ++ sep.intercalate xs := by
  obtain ⟨y, ys, rfl⟩ := List.exists_cons_of_ne_nil hxs
  simp [List.intercalate, List.intersperse_cons_cons]

namespace splitStr

variable {pat : List Char}

theorem go_nil (k : Nat) (acc : List Char) : go pat k [] acc = [acc.reverse] := by
  cases k <;> rfl

theorem go_ne_nil (k : Nat) (s acc : List Char) : go pat k s acc ≠ [] := by
  induction s generalizing k acc with
  | nil => simp [go_nil]
  | cons c cs ih =>
    cases k with
    | succ k => exact ih k acc
    | zero =>
      simp only [go]
      split
      · simp
      · exact ih 0 _

theorem go_skip (l r acc : List Char) : go pat l.length (l ++ r) acc = go pat 0 r acc := by
  induction l with
  | nil => rfl
  | cons c l ih => exact ih

theorem go_match (hp : pat ≠ []) (r acc : List Char) :
    go pat 0 (pat ++ r) acc = acc.reverse :: go pat 0 r [] := by
  obtain ⟨c, cs, rfl⟩ := List.exists_cons_of_ne_nil hp
  have hpre : c :: cs <+: c :: (cs ++ r) := List.prefix_append (c :: cs) r
  rw [List.cons_append, go, if_pos hpre, List.length_cons, Nat.add_sub_cancel, go_skip]

theorem go_cons_of_no_match (h : ¬ pat <+: c :: cs) (acc : List Char) :
    go pat 0 (c :: cs) acc = go pat 0 cs (c :: acc) := by
  simp only [go, h, if_false]

theorem go_append_of_ne_head (hp : pat ≠ []) (hl : ∀ c ∈ l, pat.head? ≠ some c)
    (r acc : List Char) :
    go pat 0 (l ++ r) acc = go pat 0 r (l.reverse ++ acc) := by
  induction l generalizing acc with
  | nil => rfl
  | cons c l ih =>
    have hc : ¬ pat <+: c :: (l ++ r) := fun hpre => by
      obtain ⟨t, ht⟩ := hpre
      obtain ⟨d, ds, rfl⟩ := List.exists_cons_of_ne_nil hp
      simp only [List.cons_append, List.cons.injEq] at ht
      exact hl c (List.mem_cons_self c l) (by simp [ht.1])
    rw [List.cons_append, go_cons_of_no_match hc, ih (fun d hd => hl d (by simp [hd]))]
    simp

theorem go_of_not_infix (h : ¬ pat <:+: s) (acc : List Char) :
    go pat 0 s acc = [acc.reverse ++ s] := by
  induction s generalizing acc with
  | nil => simp [go_nil]
  | cons c cs ih =>
    have hc : ¬ pat <+: c :: cs := fun hpre => h hpre.isInfix
    rw [go_cons_of_no_match hc, ih (fun hi => h (hi.trans (List.suffix_cons c cs).isInfix))]
    simp

theorem intercalate_go (hp : pat ≠ []) (s acc : List Char) :
    pat.intercalate (go pat 0 s acc) = acc.reverse ++ s := by
  induction' hs : s.length using Nat.strong_induction_on with n ih generalizing s acc
  cases s with
  | nil => simp [go_nil, intercalate_singleton]
  | cons c cs =>
    by_cases hpre : pat <+: c :: cs
    · obtain ⟨t, ht⟩ := hpre
      have hlt : t.length < n := by
        have h1 := congrArg List.length ht
        simp only [List.length_append, List.length_cons] at h1 hs
        have : 0 < pat.length := List.length_pos.2 hp
        omega
      rw [← ht, go_match hp, intercalate_cons_of_ne_nil _ _ (go_ne_nil 0 t []),
        ih _ hlt t [] rfl]
      simp
    · rw [go_cons_of_no_match hpre, ih cs.length (by simp [← hs]) cs _ rfl]
      simp

end splitStr

theorem splitOn_slash_ne_nil_of_mem {l : List Char} (hl : '/' ∈ l) :
    ∃ u pw rest, l.splitOn '/' = u :: pw :: rest := by
  induction l with
  | nil => simp at hl
  | cons c l ih =>
    by_cases hc : c = '/'
    · obtain ⟨pw, rest, hr⟩ := List.exists_cons_of_ne_nil (List.splitOnP_ne_nil (· == '/') l)
      exact ⟨[], pw, rest, by simp [List.splitOn, hc, hr]⟩
    · obtain ⟨u, pw, rest, hr⟩ := ih (by simpa [Ne.symm hc] using hl)
      refine ⟨c :: u, pw, rest, ?_⟩
      simp only [List.splitOn] at hr ⊢
      simp [hc, hr]

theorem not_mem_of_mem_splitOn {l piece : List Char} (hp : piece ∈ l.splitOn '/') :
    '/' ∉ piece := by
  induction l generalizing piece with
  | nil => simp_all [List.splitOn]
  | cons c l ih =>
    obtain ⟨u, us, hr⟩ := List.exists_cons_of_ne_nil (List.splitOnP_ne_nil (· == '/') l)
    simp only [List.splitOn] at hp ih
    by_cases hc : c = '/'
    · simp only [List.splitOnP_cons, hc, beq_self_eq_true, if_true, List.mem_cons] at hp
      rcases hp with rfl | hp
      · simp
      · exact ih hp
    · simp only [List.splitOnP_cons, beq_iff_eq, hc, if_false, hr, List.modifyHead_cons,
        List.mem_cons] at hp
      rcases hp with rfl | hp
      · exact List.not_mem_cons_of_ne_of_not_mem (Ne.symm hc) (ih (hr ▸ List.mem_cons_self u us))
      · exact ih (hr ▸ List.mem_cons_of_mem u hp)

theorem splitStr_go_oci (r : List Char) :
    splitStr.go ['/', '/'] 0 (['o', 'c', 'i', ':', '/', '/'] ++ r) [] =
      ['o', 'c', 'i', ':'] :: splitStr.go ['/', '/'] 0 r [] := by
  rw [show ['o', 'c', 'i', ':', '/', '/'] ++ r = ['o', 'c', 'i', ':'] ++ (['/', '/'] ++ r) from rfl,
    splitStr.go_append_of_ne_head (by decide) (by decide), splitStr.go_match (by decide)]
  rfl

theorem ne_head_of_not_mem {l : List Char} (hl : '/' ∉ l) :
    ∀ c ∈ l, (['/', '/'] : List Char).head? ≠ some c := by
  intro c hc h'
  simp only [List.head?_cons, Option.some.injEq] at h'
  exact hl (h' ▸ hc)

theorem splitStr_url (u p h : String) (hu : '/' ∉ u.data) (hp : '/' ∉ p.data)
    (hh : ¬ "//".data <:+: h.data) :
    splitStr ("oci://" ++ u ++ "/" ++ p ++ "@//" ++ h) "//" =
      ["oci:", u ++ "/" ++ p ++ "@", h] := by
  have hx : ¬ ['/', '/'] <+: '/' :: (p.data ++ (['@', '/', '/'] ++ h.data)) := by
    cases hpd : p.data with
    | nil => simp
    | cons a t =>
      have : a ≠ '/' := fun ha => hp (by simp [hpd, ha])
      simpa using Ne.symm this
  have hne : ∀ c ∈ p.data ++ ['@'], (['/', '/'] : List Char).head? ≠ some c :=
    ne_head_of_not_mem (by simpa using hp)
  have hh' : ¬ ['/', '/'] <:+: h.data := hh
  simp only [splitStr, String.data_append, List.append_assoc]
  rw [splitStr_go_oci, splitStr.go_append_of_ne_head (by decide) (ne_head_of_not_mem hu),
    List.singleton_append, splitStr.go_cons_of_no_match hx,
    show p.data ++ (['@', '/', '/'] ++ h.data) = (p.data ++ ['@']) ++ (['/', '/'] ++ h.data)
      by simp, splitStr.go_append_of_ne_head (by decide) hne, splitStr.go_match (by decide),
    splitStr.go_of_not_infix hh']
  simp [String.ext_iff]

/-- A URL built from parts without slashes is parsed back into them. -/
theorem parseDbString_of_parts (u p h : String) (hu : '/' ∉ u.data) (hp : '/' ∉ p.data)
    (hh : ¬ "//".data <:+: h.data) :
    parseDbString ("oci://" ++ u ++ "/" ++ p ++ "@//" ++ h) = .ok (u, p, h) := by
  have hpre : "oci://".data <+: ("oci://" ++ u ++ "/" ++ p ++ "@//" ++ h).data := by
    simp only [String.data_append, List.append_assoc]
    exact List.prefix_append _ _
  have hsplit : (u ++ "/" ++ p ++ "@").data.splitOn '/' = [u.data, p.data ++ ['@']] := by
    simp only [String.data_append, List.append_assoc, List.splitOn,
      show "/".data = ['/'] from rfl, List.singleton_append, List.cons_append]
    rw [List.splitOnP_first (· == '/') u.data (fun x hx hx' => hu (beq_iff_eq.1 hx' ▸ hx))
      '/' rfl, List.splitOnP_eq_single (· == '/') _ (fun x hx hx' => by simp_all)]
    rfl
  simp only [parseDbString, hpre, decide_True, Bool.not_true, Bool.false_eq_true, if_false,
    splitStr_url u p h hu hp hh, hsplit, pop, List.dropLast_concat]

theorem parseDbString_of_parts_localhost :
    ('/' ∉ "user".data ∧ '/' ∉ "password".data ∧
      ¬ "//".data <:+: "localhost:1234/my_database".data) ∧
      parseDbString ("oci://" ++ "user" ++ "/" ++ "password" ++ "@//" ++
        "localhost:1234/my_database") = .ok ("user", "password", "localhost:1234/my_database") :=
  ⟨by decide, parseDbString_of_parts _ _ _ (by decide) (by decide) (by decide)⟩

theorem splitStr_three (hpre : "oci://".data <+: s.data)
    (hs : splitStr s "//" = [a, m, h]) :
    s.data = "oci://".data ++ m.data ++ "//".data ++ h.data := by
  obtain ⟨r, hr⟩ := hpre
  have hgo : splitStr.go ['/', '/'] 0 r [] = [m.data, h.data] := by
    have := congrArg (List.map String.data) hs
    simp only [splitStr, ← hr, List.map_map] at this
    rw [splitStr_go_oci] at this
    have e : (String.data ∘ String.mk) = id := rfl
    simp only [e, List.map_id, List.map_cons, List.map_nil, List.cons.injEq] at this
    exact this.2
  have hj : ['/', '/'].intercalate (splitStr.go ['/', '/'] 0 r []) = [].reverse ++ r :=
    splitStr.intercalate_go (by decide) r []
  rw [hgo, intercalate_cons_of_ne_nil _ _ (List.cons_ne_nil _ _), intercalate_singleton,
    List.reverse_nil, List.nil_append] at hj
  rw [← hr, ← hj]
  simp [show "//".data = ['/', '/'] from rfl]

theorem dropLast_append_at_iff (pw : List Char) :
    pw.dropLast ++ ['@'] = pw ↔ pw.getLast? = some '@' := by
  rcases List.eq_nil_or_concat pw with rfl | ⟨L, b, rfl⟩
  · simp
  · simp [eq_comm]

theorem middle_eq_iff (hm : m.splitOn '/' = u :: pw :: rest) :
    u ++ '/' :: (pw.dropLast ++ ['@']) = m ↔ rest = [] ∧ pw.getLast? = some '@' := by
  have hpw : '/' ∉ pw := not_mem_of_mem_splitOn (l := m) (by rw [hm]; simp)
  conv_lhs => rw [← List.intercalate_splitOn m '/', hm,
    intercalate_cons_of_ne_nil _ _ (by simp), List.append_assoc, List.singleton_append]
  rw [List.append_cancel_left_eq, List.cons.injEq]
  simp only [true_and]
  cases rest with
  | nil => simp [intercalate_singleton, dropLast_append_at_iff]
  | cons r rs =>
    have hl : '/' ∉ pw.dropLast ++ ['@'] := by
      simp only [List.mem_append, List.mem_singleton, not_or]
      exact ⟨fun h' => hpw (List.mem_of_mem_dropLast h'), by decide⟩
    have hr : '/' ∈ ['/'].intercalate (pw :: r :: rs) := by
      rw [intercalate_cons_of_ne_nil _ _ (by simp)]
      simp
    simp only [reduceCtorEq, false_and, iff_false]
    exact fun h' => hl (h' ▸ hr)

/-- What `parse_db_string` does with every string. -/
theorem parseDbString_spec (s : String) :
    (parseDbString s =
        .err (.invalidConnectionUrl ("Could not use " ++ s ++ " with oci backend")) ↔
      ¬ "oci://".data <+: s.data) ∧
    ("oci://".data <+: s.data → (splitStr s "//").length ≠ 3 →
      parseDbString s = .panic (assertEqMessage (splitStr s "//").length 3)) ∧
    ("oci://".data <+: s.data → ∀ a m h, splitStr s "//" = [a, m, h] → '/' ∉ m.data →
      parseDbString s = .panic "index out of bounds: the len is 1 but the index is 1") ∧
    ("oci://".data <+: s.data → ∀ a m h, splitStr s "//" = [a, m, h] → '/' ∈ m.data →
      ∃ u pw rest, m.data.splitOn '/' = u :: pw :: rest ∧
        parseDbString s = .ok (⟨u⟩, ⟨pw.dropLast⟩, h) ∧
        ("oci://" ++ ⟨u⟩ ++ "/" ++ ⟨pw.dropLast⟩ ++ "@//" ++ h = s ↔
          rest = [] ∧ pw.getLast? = some '@')) := by
  refine ⟨?_, fun hpre hlen => ?_, fun hpre a m h hs hm => ?_, fun hpre a m h hs hm => ?_⟩
  · by_cases hpre : "oci://".data <+: s.data
    · simp only [parseDbString, hpre, decide_True, Bool.not_true, Bool.false_eq_true, if_false,
        not_true_eq_false, iff_false]
      split
      · split <;> simp
      · simp
    · simp [parseDbString, hpre]
  · simp only [parseDbString, hpre, decide_True, Bool.not_true, Bool.false_eq_true, if_false]
    split
    · simp_all
    · rfl
  · have hsplit : m.data.splitOn '/' = [m.data] :=
      List.splitOnP_eq_single _ _ fun x hx hx' => hm (by simpa using beq_iff_eq.1 hx' ▸ hx)
    simp [parseDbString, hpre, hs, hsplit]
  · obtain ⟨u, pw, rest, hsplit⟩ := splitOn_slash_ne_nil_of_mem hm
    refine ⟨u, pw, rest, hsplit, ?_, ?_⟩
    · simp [parseDbString, hpre, hs, hsplit, pop]
    · rw [String.ext_iff, splitStr_three hpre hs]
      simp only [String.data_append, List.append_assoc, List.cons_append, List.cons.injEq,
        true_and, List.nil_append, ← middle_eq_iff hsplit]
      rw [show u ++ '/' :: (pw.dropLast ++ '@' :: '/' :: '/' :: h.data) =
        (u ++ '/' :: (pw.dropLast ++ ['@'])) ++ ('/' :: '/' :: h.data) by simp,
        List.append_cancel_right_eq]

/-- Two URLs with the scheme that the law misses. -/
theorem parseDbString_slash_cases :
    parseDbString "oci://u/p/q@//h" = .ok ("u", "", "h") ∧
      "oci://" ++ "u" ++ "/" ++ "" ++ "@//" ++ "h" ≠ "oci://u/p/q@//h" ∧
      (splitStr "oci://u@//h" "//").length = 3 ∧
      parseDbString "oci://u@//h" = .panic "index out of bounds: the len is 1 but the index is 1" := by
  decide

end DieselOci

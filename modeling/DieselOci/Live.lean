import DieselOci.Handles
import DieselOci.Bind

namespace DieselOci
set_option autoImplicit true

open Oci
open scoped List

def AttrValue.handles : AttrValue → List Nat
  | .handle h => [h]
  | _ => []

/-- The handles a call is passed. -/
def Call.reads : Call → List Nat
  | .envNlsCreate => []
  | .handleAlloc env _ => [env]
  | .nlsCharSetNameToId env _ => [env]
  | .handleFree handle _ => [handle]
  | .serverAttach server err _ _ => [server, err]
  | .attrSet target _ value _ _ err => target :: err :: value.handles
  | .sessionBegin svc err session _ => [svc, err, session]
  | .sessionEnd svc err session => [svc, err, session]
  | .serverDetach server err => [server, err]
  | .stmtPrepare2 svc err _ _ => [svc, err]
  | .errorGet err _ _ _ => [err]
  | .stmtExecute svc stmt err _ => [svc, stmt, err]
  | .attrGet target _ _ err => [target, err]
  | .paramGet stmt _ err _ => [stmt, err]
  | .defineByPos stmt err .. => [stmt, err]
  | .bindByPos stmt err .. => [stmt, err]
  | .stmtFetch2 stmt err _ _ => [stmt, err]
  | .stmtRelease stmt err => [stmt, err]

/-- The calls that write a new handle through an out pointer. -/
def Call.givesHandle : Call → Bool
  | .envNlsCreate | .handleAlloc .. | .stmtPrepare2 .. | .paramGet .. | .defineByPos ..
  | .bindByPos .. => true
  | _ => false

def Entry.given (e : Entry) : List Nat := if e.call.givesHandle then [e.reply.handle] else []

/-- The live handles after one call: the handle it writes joins them, the one it frees leaves. -/
def liveStep (live : List Nat) (e : Entry) : List Nat :=
  match e.call.releases with
  | some (x, _) => (live ++ e.given).erase x
  | none => live ++ e.given

def liveAfter (live : List Nat) (w : List Entry) : List Nat := w.foldl liveStep live

/-- Each call of a run is passed only handles live when it is made. -/
def ReadsLive : List Nat → List Entry → Prop
  | _, [] => True
  | live, e :: w => (∀ x ∈ e.call.reads, x ∈ live) ∧ ReadsLive (liveStep live e) w

@[simp] theorem liveAfter_nil (live : List Nat) : liveAfter live [] = live := rfl

@[simp] theorem liveAfter_cons (live : List Nat) (e : Entry) (w : List Entry) :
    liveAfter live (e :: w) = liveAfter (liveStep live e) w := rfl

@[simp] theorem liveAfter_append (live : List Nat) (w₁ w₂ : List Entry) :
    liveAfter live (w₁ ++ w₂) = liveAfter (liveAfter live w₁) w₂ :=
  List.foldl_append _ _ _ _

@[simp] theorem readsLive_nil (live : List Nat) : ReadsLive live [] := trivial

@[simp] theorem readsLive_cons : ReadsLive live (e :: w) ↔
    (∀ x ∈ e.call.reads, x ∈ live) ∧ ReadsLive (liveStep live e) w := Iff.rfl

theorem readsLive_append : ReadsLive live (w₁ ++ w₂) ↔
    ReadsLive live w₁ ∧ ReadsLive (liveAfter live w₁) w₂ := by
  induction w₁ generalizing live with
  | nil => simp
  | cons e w₁ ih => simp [ih, and_assoc]

theorem liveStep_subperm (h : l <+~ l') (e : Entry) : liveStep l e <+~ liveStep l' e := by
  unfold liveStep
  split
  · exact ((List.subperm_append_right _).2 h).erase _
  · exact (List.subperm_append_right _).2 h

theorem liveAfter_subperm (h : l <+~ l') (w : List Entry) : liveAfter l w <+~ liveAfter l' w := by
  induction w generalizing l l' with
  | nil => exact h
  | cons e w ih => exact ih (liveStep_subperm h e)

theorem ReadsLive.mono (hw : ReadsLive l w) (h : l <+~ l') : ReadsLive l' w := by
  induction w generalizing l l' with
  | nil => trivial
  | cons e w ih => exact ⟨fun x hx => h.subset (hw.1 x hx), ih hw.2 (liveStep_subperm h e)⟩

theorem reads_of_releases {c : Call} (hc : c.releases = some (x, t)) : x ∈ c.reads := by
  cases c <;> simp_all [Call.releases, Call.reads]

theorem readsLive_of_neutral (hw : ∀ e ∈ w, (∀ x ∈ e.call.reads, x ∈ live) ∧
    e.call.givesHandle = false ∧ e.call.releases = none) :
    ReadsLive live w ∧ liveAfter live w = live := by
  induction w with
  | nil => exact ⟨trivial, rfl⟩
  | cons e w ih =>
    obtain ⟨hr, hg, hf⟩ := hw e (List.mem_cons_self e w)
    have hs : liveStep live e = live := by simp [liveStep, hf, Entry.given, hg]
    obtain ⟨ih₁, ih₂⟩ := ih fun x hx => hw x (List.mem_cons_of_mem e hx)
    exact ⟨⟨hr, by rw [hs]; exact ih₁⟩, by rw [liveAfter_cons, hs, ih₂]⟩

theorem liveStep_perm (hr : ∀ x ∈ e.call.reads, x ∈ live) :
    (liveStep live e ++ e.call.releases.toList.map Prod.fst).Perm (live ++ e.given) := by
  unfold liveStep
  split
  · next x t hx =>
    have hm : x ∈ live ++ e.given := List.mem_append_left _ (hr x (reads_of_releases hx))
    simpa [hx] using List.perm_append_comm.trans (List.perm_cons_erase hm).symm
  · next hx => simp [hx]

/-- The handles a run leaves live and frees are those live before it and those it gives. -/
theorem liveAfter_conservation (hw : ReadsLive live w) :
    (liveAfter live w ++ (releases w).map Prod.fst).Perm (live ++ w.flatMap Entry.given) := by
  induction w generalizing live with
  | nil => simp
  | cons e w ih =>
    refine List.perm_iff_count.2 fun a => ?_
    have h₁ := List.perm_iff_count.1 (ih hw.2) a
    have h₂ := List.perm_iff_count.1 (liveStep_perm hw.1) a
    simp only [liveAfter_cons, releases_cons, List.map_append, List.flatMap_cons, List.count_append]
      at h₁ h₂ ⊢
    omega

def Call.Within (l : List Nat) (c : Call) : Prop :=
  (∀ x ∈ c.reads, x ∈ l) ∧ c.givesHandle = false ∧ c.releases = none

/-- The handles a run that ended with `x` leaves live. -/
def Exit.leaves (out : α → List Nat) (keep : List Nat) : Exit ε α → List Nat
  | .ok a => out a
  | _ => keep

@[simp] theorem Exit.leaves_ok : (Exit.ok a : Exit ε α).leaves out keep = out a := rfl
@[simp] theorem Exit.leaves_err : (Exit.err e : Exit ε α).leaves out keep = keep := rfl
@[simp] theorem Exit.leaves_panic : (Exit.panic s : Exit ε α).leaves out keep = keep := rfl

@[simp] theorem Exit.leaves_const (x : Exit ε α) : x.leaves (fun _ => l) l = l := by
  cases x <;> rfl

theorem Exit.leaves_congr {x y : Exit ε α} (h : ∀ a, x = .ok a ↔ y = .ok a) :
    x.leaves out keep = y.leaves out keep := by
  cases x <;> cases y <;> simp_all

theorem Exit.leaves_subperm (x : Exit ε α) (ho : ∀ a, out a <+~ l) (hk : keep <+~ l) :
    x.leaves out keep <+~ l := by
  cases x
  · exact ho _
  all_goals exact hk

/-- Every run of `m` from the live handles `need` reads only live handles. -/
def Oci.Live (need : List Nat) (m : Oci ε α) (out : α → List Nat) (keep : List Nat) : Prop :=
  ∀ lib h, ReadsLive need (m lib h).2 ∧ (m lib h).1.leaves out keep <+~ liveAfter need (m lib h).2

namespace Oci.Live

variable {out : α → List Nat}

theorem pure (h : out a <+~ need) : Live need (Pure.pure a : Oci ε α) out keep :=
  fun _ _ => ⟨trivial, h⟩

theorem throw (e : ε) (h : keep <+~ need) : Live need (Oci.throw e : Oci ε α) out keep :=
  fun _ _ => ⟨trivial, h⟩

theorem lift {x : Exit ε α} (h : x.leaves out keep <+~ need) : Live need (Oci.lift x) out keep :=
  fun _ _ => ⟨trivial, h⟩

theorem mono {m : Oci ε α} (hm : Live need m out keep) (h : need <+~ need') :
    Live need' m out keep :=
  fun lib h' => ⟨(hm lib h').1.mono h, (hm lib h').2.trans (liveAfter_subperm h _)⟩

theorem weaken {m : Oci ε α} (hm : Live need m out keep) (ho : ∀ a, out' a <+~ out a)
    (hk : keep' <+~ keep) : Live need m out' keep' := by
  intro lib h
  refine ⟨(hm lib h).1, List.Subperm.trans ?_ (hm lib h).2⟩
  cases (m lib h).1
  · exact ho _
  all_goals exact hk

theorem bindWith {mid : α → List Nat} {m : Oci ε α} {k : α → Oci ε β} {out : β → List Nat}
    {R : α → Prop} (hm : Live need m mid keep) (hR : Returns (fun a _ => R a) m)
    (hk : ∀ a, R a → Live (mid a) (k a) out keep) : Live need (m >>= k) out keep := by
  intro lib h
  have hm' := hm lib h
  rcases hr : m lib h with ⟨a | e | s, w⟩ <;> rw [hr] at hm'
  · have hRa : R a := by simpa [hr] using hR lib h a (by rw [hr])
    obtain ⟨hw', hl'⟩ := hk a hRa lib (h ++ w)
    rw [bind_of_ok hr, liveAfter_append]
    exact ⟨readsLive_append.2 ⟨hm'.1, hw'.mono hm'.2⟩, hl'.trans (liveAfter_subperm hm'.2 _)⟩
  · rw [bind_of_err hr]
    exact hm'
  · rw [bind_of_panic hr]
    exact hm'

theorem bind {mid : α → List Nat} {m : Oci ε α} {k : α → Oci ε β} {out : β → List Nat}
    (hm : Live need m mid keep) (hk : ∀ a, Live (mid a) (k a) out keep) :
    Live need (m >>= k) out keep :=
  .bindWith (R := fun _ => True) hm (fun _ _ _ _ => trivial) fun a _ => hk a

theorem native (hc : ∀ x ∈ c.reads, x ∈ need) :
    Live need (Oci.native c : Oci ε Reply) (fun r => liveStep need ⟨c, r⟩) keep :=
  fun _ _ => ⟨⟨hc, trivial⟩, List.Subperm.refl _⟩

theorem native_bind {k : Reply → Oci ε β} {out : β → List Nat} (hc : ∀ x ∈ c.reads, x ∈ need)
    (hk : ∀ r, Live (liveStep need ⟨c, r⟩) (k r) out keep) : Live need (Oci.native c >>= k) out keep :=
  .bind (.native hc) hk

theorem give {k : Reply → Oci ε β} {out : β → List Nat} (hc : ∀ x ∈ c.reads, x ∈ need)
    (hg : c.givesHandle = true) (hf : c.releases = none)
    (hk : ∀ r, Live (need ++ [r.handle]) (k r) out keep) : Live need (Oci.native c >>= k) out keep :=
  .native_bind hc fun r => by simpa [liveStep, hf, Entry.given, hg] using hk r

theorem read {k : Reply → Oci ε β} {out : β → List Nat} (hc : ∀ x ∈ c.reads, x ∈ need)
    (hg : c.givesHandle = false) (hf : c.releases = none)
    (hk : ∀ r, Live need (k r) out keep) : Live need (Oci.native c >>= k) out keep :=
  .native_bind hc fun r => by simpa [liveStep, hf, Entry.given, hg] using hk r

theorem free {k : Reply → Oci ε β} {out : β → List Nat} (hc : ∀ y ∈ c.reads, y ∈ x :: rest)
    (hg : c.givesHandle = false) (hf : c.releases = some (x, t))
    (hk : ∀ r, Live rest (k r) out keep) : Live (x :: rest) (Oci.native c >>= k) out keep :=
  .native_bind hc fun r => by simpa [liveStep, hf, Entry.given, hg] using hk r

theorem ite {a b : Oci ε α} [Decidable c] (ha : Live need a out keep) (hb : Live need b out keep) :
    Live need (if c then a else b) out keep := by
  split
  · exact ha
  · exact hb

theorem mapErr {m : Oci ε α} (f : ε → ε') (hm : Live need m out keep) :
    Live need (Oci.mapErr f m) out keep := by
  intro lib h
  have hm' := hm lib h
  rw [mapErr_snd]
  simp only [Oci.mapErr]
  rcases hr : m lib h with ⟨b | e | s, w⟩ <;> rw [hr] at hm' <;> exact hm'

theorem attempt {m : Oci ε α} (hm : Live need m out l) (hk : keep <+~ l) :
    Live need (Oci.attempt m : Oci ε' _) (fun x => match x with
      | .ok a => out a
      | .error _ => l) keep := by
  intro lib h
  have hm' := hm lib h
  rw [attempt_snd]
  simp only [Oci.attempt]
  rcases hr : m lib h with ⟨b | e | s, w⟩ <;> rw [hr] at hm'
  · exact hm'
  · exact hm'
  · exact ⟨hm'.1, hk.trans hm'.2⟩

theorem attempt_const {m : Oci ε α} (hm : Live need m (fun _ => l) l) (hk : keep <+~ l) :
    Live need (Oci.attempt m : Oci ε' _) (fun _ => l) keep :=
  (attempt hm hk).weaken (fun x => by cases x <;> exact .refl _) (.refl _)

theorem onAbort {m : Oci ε α} {d : Oci ε Unit} (hm : Live need m out keep')
    (hd : Live keep' d (fun _ => keep) keep) : Live need (Oci.onAbort d m) out keep := by
  intro lib h
  have hm' := hm lib h
  rw [onAbort_snd, onAbort_fst]
  rcases hr : m lib h with ⟨a | e | s, w⟩ <;> rw [hr] at hm' <;> dsimp only
  · simpa using hm'
  all_goals
    obtain ⟨hw, hl⟩ := hd lib (h ++ w)
    refine ⟨readsLive_append.2 ⟨hm'.1, hw.mono hm'.2⟩, ?_⟩
    rw [liveAfter_append, Exit.leaves_const] at *
    exact hl.trans (liveAfter_subperm hm'.2 _)

theorem unwindWith {m : Oci ε α} {d : Oci ε Unit} (hm : Live need m out keep')
    (hd : Live keep' d (fun _ => keep) keep) : Live need (Oci.unwindWith d m) out keep := by
  intro lib h
  have ho := onAbort hm hd lib h
  rwa [unwindWith_snd, Exit.leaves_congr (y := (Oci.onAbort d m lib h).1) fun _ => by
    rw [onAbort_fst]; exact unwindWith_fst_eq_ok]

theorem abortOnPanic {d : Oci ε Unit} {out : Unit → List Nat} (hd : Live need d out keep) :
    Live need (Oci.abortOnPanic d) out keep := by
  intro lib h
  rw [abortOnPanic_snd, Exit.leaves_congr (y := (d lib h).1) fun _ => abortOnPanic_fst_eq_ok]
  exact hd lib h

theorem of_neutral {m : Oci ε α} (hm : Issues (Call.Within need) m) (ho : ∀ a, out a <+~ need)
    (hk : keep <+~ need) : Live need m out keep := fun lib h =>
  have hn := readsLive_of_neutral (hm lib h)
  ⟨hn.1, by rw [hn.2]; exact Exit.leaves_subperm _ ho hk⟩

end Oci.Live

theorem checkError_within (h : eh ∈ l) : Issues (Call.Within l) (checkError eh s) :=
  (checkError_issues eh s).mono fun _ hc => hc ▸ ⟨by simp [Call.reads, errorGetCall, h], rfl, rfl⟩

theorem checkError_live (h : eh ∈ l) (hk : keep <+~ l) :
    Live l (checkError eh s) (fun _ => l) keep :=
  .of_neutral (checkError_within h) (fun _ => .refl _) hk

theorem new_live :
    Live [] ConnectionEnviroment.new (fun env => [env.handle, env.errorHandle]) [] := by
  refine .give (by simp [Call.reads]) rfl rfl fun r => ?_
  refine .ite (by rw [throw_bind]; exact .throw _ (List.nil_subperm)) ?_
  simp only [pure_bind, allocHandle, bind_assoc]
  refine .give (by simp [Call.reads]) rfl rfl fun r' =>
    .read (by simp [Call.reads]) rfl rfl fun _ => .pure (List.Subperm.refl _)

def RawConnection.handles (c : RawConnection) : List Nat :=
  [c.env.handle, c.env.errorHandle, c.serverHandle, c.serviceHandle, c.sessionHandle,
    c.transactionHandle]

theorem envDrop_live (env : ConnectionEnviroment) :
    Live [env.errorHandle, env.handle] (env.drop : Oci ε Unit) (fun _ => []) keep :=
  .free (by simp [Call.reads]) rfl rfl fun _ => .free (by simp [Call.reads]) rfl rfl fun _ =>
    .pure (List.Subperm.refl _)

theorem establish_live (url : String) :
    Live [] (RawConnection.establish url) RawConnection.handles [] := by
  simp only [RawConnection.establish, allocHandle, bind_assoc, pure_bind]
  refine .bind (.lift (Exit.leaves_subperm _ (fun _ => List.nil_subperm) List.nil_subperm))
    fun _ => .bind new_live fun env => .onAbort ?_
      ((envDrop_live env).mono (List.Perm.swap _ _ []).subperm)
  refine .give (by simp [Call.reads]) rfl rfl fun _ => .give (by simp [Call.reads]) rfl rfl fun _ =>
    .give (by simp [Call.reads]) rfl rfl fun _ => .give (by simp [Call.reads]) rfl rfl fun _ => ?_
  refine .read (by simp [Call.reads]) rfl rfl fun _ =>
    .bind ((checkError_live (by simp) (by simp : _ <+ _).subperm).mapErr _) fun _ => ?_
  refine .read (by simp [Call.reads, AttrValue.handles]) rfl rfl fun _ =>
    .read (by simp [Call.reads, AttrValue.handles]) rfl rfl fun _ =>
    .read (by simp [Call.reads, AttrValue.handles]) rfl rfl fun _ =>
    .read (by simp [Call.reads]) rfl rfl fun _ =>
    .bind ((checkError_live (by simp) (by simp : _ <+ _).subperm).mapErr _) fun _ => ?_
  exact .read (by simp [Call.reads, AttrValue.handles]) rfl rfl fun _ =>
    .read (by simp [Call.reads, AttrValue.handles]) rfl rfl fun _ => .pure (List.Subperm.refl _)

def RawConnection.dropOrder (c : RawConnection) : List Nat :=
  [c.sessionHandle, c.serviceHandle, c.serverHandle, c.transactionHandle, c.env.errorHandle,
    c.env.handle]

theorem RawConnection.handles_perm (c : RawConnection) : c.handles.Perm c.dropOrder :=
  List.perm_iff_count.2 fun a => by
    simp only [RawConnection.handles, RawConnection.dropOrder, List.count_cons, List.count_nil]
    omega

theorem connDrop_live (c : RawConnection) :
    Live c.dropOrder (c.drop : Oci ε Unit) (fun _ => []) keep :=
  .read (by simp [Call.reads, RawConnection.dropOrder]) rfl rfl fun _ =>
    .read (by simp [Call.reads, RawConnection.dropOrder]) rfl rfl fun _ =>
    .free (by simp [Call.reads]) rfl rfl fun _ => .free (by simp [Call.reads]) rfl rfl fun _ =>
    .free (by simp [Call.reads]) rfl rfl fun _ => .free (by simp [Call.reads]) rfl rfl fun _ =>
    envDrop_live c.env

section Statements

variable {l keep : List Nat} (T : DataTypeOps τ)

theorem prepare_live (hs : conn.serviceHandle ∈ l) (he : conn.env.errorHandle ∈ l)
    (hk : keep <+~ l) :
    Live l (Statement.prepare conn sql) (fun s => l ++ [s.innerStatement]) keep := by
  have hk' : ∀ x, keep <+~ l ++ x := fun _ => hk.trans (List.sublist_append_left _ _).subperm
  refine .give (by simp [Call.reads, hs, he]) rfl rfl fun r =>
    .bind (checkError_live (by simp [he]) (hk' _)) fun _ => ?_
  dsimp only
  simp only [Oci.pure_bind]
  split
  · split
    · refine .give (by simp [Call.reads, hs, he]) rfl rfl fun r' =>
        .bind (checkError_live (by simp [he]) (by simpa using hk' ([r.handle] ++ [r'.handle])))
          fun _ => .pure ((List.sublist_append_left l [r.handle]).append_right _).subperm
    · exact .pure (.refl _)
  · exact .pure (.refl _)

theorem bind_live [DecidableEq τ] (self : Statement) (hs : self.innerStatement ∈ l)
    (he : self.errorHandle ∈ l) (hk : keep <+~ l) :
    Live l (self.bind T tpe value) (fun _ => l) keep := by
  rw [Statement.bind]
  generalize bindBuffer value = b
  obtain ⟨buf, size, ind⟩ := b
  refine .give (by simp [Call.reads, hs, he]) rfl rfl fun r =>
    .bind (.attempt_const (l := l ++ [r.handle])
      (.bind (checkError_live (by simp [he]) (.refl _)) fun _ => .ite ?_ (.pure (.refl _)))
      (hk.trans (List.sublist_append_left _ _).subperm)) fun _ =>
    .pure (List.sublist_append_left _ _).subperm
  exact .read (by simp [Call.reads, AttrValue.handles, he]) rfl rfl fun _ => .pure (.refl _)

theorem run_live (self : Statement) (hv : self.connection.serviceHandle ∈ l)
    (hs : self.innerStatement ∈ l) (he : self.errorHandle ∈ l) (hk : keep <+~ l) :
    Live l self.run (fun _ => l) keep :=
  .of_neutral (.bind (.native ⟨by simp [Call.reads, hv, hs, he], rfl, rfl⟩) fun _ =>
    checkError_within he) (fun _ => .refl _) hk

theorem getAffectedRows_live (self : Statement) (hs : self.innerStatement ∈ l)
    (he : self.errorHandle ∈ l) (hk : keep <+~ l) : Live l self.getAffectedRows (fun _ => l) keep :=
  .of_neutral (.bind (.native ⟨by simp [Call.reads, hs, he], rfl, rfl⟩) fun _ =>
    .bind (checkError_within he) fun _ => .pure _) (fun _ => .refl _) hk

theorem getColumnCount_live (self : Statement) (hs : self.innerStatement ∈ l)
    (he : self.errorHandle ∈ l) (hk : keep <+~ l) : Live l self.getColumnCount (fun _ => l) keep :=
  .of_neutral (.bind (.native ⟨by simp [Call.reads, hs, he], rfl, rfl⟩) fun _ =>
    .bind (checkError_within he) fun _ => .pure _) (fun _ => .refl _) hk

theorem getAttrTypeAndSize_live (self : Statement) (hc : col ∈ l) (he : self.errorHandle ∈ l)
    (hk : keep <+~ l) : Live l (self.getAttrTypeAndSize col) (fun _ => l) keep :=
  .of_neutral (getAttrTypeAndSize_issues.mono fun _ hd => by
    rcases hd with ⟨_, rfl⟩ | rfl
    · exact ⟨by simp [Call.reads, hc, he], rfl, rfl⟩
    · exact ⟨by simp [Call.reads, errorGetCall, he], rfl, rfl⟩) (fun _ => .refl _) hk

theorem define_live (self : Statement) (hs : self.innerStatement ∈ l) (he : self.errorHandle ∈ l)
    (hk : keep <+~ l ++ fields.map Field.inner) :
    Live (l ++ fields.map Field.inner) (self.define T fields tpe size pos)
      (fun fs => l ++ fs.map Field.inner) keep := by
  refine .give (by simp [Call.reads, hs, he]) rfl rfl fun r =>
    .bind (checkError_live (by simp [he]) (hk.trans (List.sublist_append_left _ _).subperm)) fun _ => ?_
  split
  · exact .pure (by rw [List.map_append, List.append_assoc]; exact .refl _)
  · exact .throw _ (hk.trans (List.sublist_append_left _ _).subperm)

theorem defineColumn_live (self : Statement) (hs : self.innerStatement ∈ l)
    (he : self.errorHandle ∈ l) (hk : keep <+~ l ++ fields.map Field.inner) :
    Live (l ++ fields.map Field.inner) (self.defineColumn T fields pos)
      (fun fs => l ++ fs.map Field.inner) keep := by
  refine .give (by simp [Call.reads, hs, he]) rfl rfl fun r => ?_
  have hk' := hk.trans (List.sublist_append_left _ [r.handle]).subperm
  refine .bind (checkError_live (by simp [he]) hk') fun _ =>
    .bind (getAttrTypeAndSize_live self (by simp) (by simp [he]) hk') fun _ => ?_
  have hp : (l ++ [r.handle] ++ fields.map Field.inner).Perm (l ++ fields.map Field.inner ++ [r.handle]) := by
    simpa only [List.append_assoc] using List.perm_append_comm.append_left l
  exact ((define_live T self (List.mem_append_left _ hs) (List.mem_append_left _ he)
    (hk'.trans hp.symm.subperm)).mono hp.subperm).weaken
    (fun fs => ((List.sublist_append_left l [r.handle]).append_right _).subperm) (.refl _)

theorem dropFields_live (fs : List (Field τ)) :
    Live (fs.map Field.inner ++ rest) (dropFields fs : Oci ε Unit) (fun _ => rest) keep := by
  induction fs with
  | nil => exact .pure (.refl _)
  | cons f fs ih =>
    exact .bind (.free (by simp [Call.reads]) rfl rfl fun _ => .pure (.refl _)) fun _ => ih

theorem defineColumns_live (self : Statement) (hs : self.innerStatement ∈ l)
    (he : self.errorHandle ∈ l) (hk : keep <+~ l) (n : Nat) : ∀ i fields,
    Live (l ++ fields.map Field.inner) (self.defineColumns T i n fields)
      (fun fs => l ++ fs.map Field.inner) keep := by
  induction n with
  | zero => exact fun _ _ => .pure (.refl _)
  | succ n ih =>
    intro i fields
    have hp : (l ++ fields.map Field.inner).Perm (fields.map Field.inner ++ l) :=
      List.perm_append_comm
    exact .bind (.onAbort (defineColumn_live T self hs he hp.symm.subperm)
      ((dropFields_live fields).weaken (fun _ => hk) (.refl _))) fun fs => ih (i + 1) fs

theorem defineAllColumns_live (self : Statement) (hs : self.innerStatement ∈ l)
    (he : self.errorHandle ∈ l) (hk : keep <+~ l) :
    Live l (self.defineAllColumns T) (fun fs => l ++ fs.map Field.inner) keep :=
  .bind (getColumnCount_live self hs he hk) fun n => by
    simpa using defineColumns_live T self hs he hk n 0 []

theorem runWithCursor_live (self : Statement) (hv : self.connection.serviceHandle ∈ l)
    (hs : self.innerStatement ∈ l) (he : self.errorHandle ∈ l) (hk : keep <+~ l) :
    Live l (self.runWithCursor T) (fun c => l ++ c.results.map Field.inner) keep :=
  .bind (run_live self hv hs he hk) fun _ =>
    .bind (defineAllColumns_live T self hs he hk) fun _ => .pure (.refl _)

@[simp] theorem writeRow_map_inner : ∀ (fs : List (Field τ)) row,
    (writeRow fs row).map Field.inner = fs.map Field.inner
  | _ :: fs, _ :: row => by simp [writeRow, Field.write, writeRow_map_inner fs row]
  | [], _ => by simp [writeRow]
  | _ :: _, [] => by simp [writeRow]

theorem next_live (c : Cursor τ) (decode : List (List UInt8 × Bool) → Except String α)
    (hs : c.stmt.innerStatement ∈ l) (he : c.stmt.errorHandle ∈ l)
    (hk : keep <+~ l ++ c.results.map Field.inner) :
    Live (l ++ c.results.map Field.inner) (c.next decode)
      (fun p => l ++ p.1.results.map Field.inner) keep := by
  refine .read (by simp [Call.reads, Cursor.fetchCall, hs, he]) rfl rfl fun r =>
    .bind (.attempt_const (checkError_live (by simp [he]) (.refl _)) hk) fun x => ?_
  have ho : l ++ (writeRow c.results r.row).map Field.inner <+~ l ++ c.results.map Field.inner := by
    rw [writeRow_map_inner]
  split
  · exact .pure ho
  · exact .ite (.pure ho) (.pure ho)

theorem stmtDrop_live (self : Statement) (he : self.errorHandle ∈ l) (hk : keep <+~ l) :
    Live (self.innerStatement :: l) self.drop (fun _ => l) keep :=
  .free (by simp [Call.reads, he]) rfl rfl fun _ =>
    .bind (.attempt_const (checkError_live he (.refl _)) hk) fun _ => .pure (.refl _)

end Statements

theorem Oci.Returns.true (m : Oci ε α) : Returns (fun _ _ => True) m := fun _ _ _ _ => trivial

theorem Oci.Returns.attempt {m : Oci ε α} (hm : Returns Q m) :
    Returns (fun x w => ∀ a, x = .ok a → Q a w) (Oci.attempt m : Oci ε' _) := by
  rintro lib h x hx a rfl
  rw [attempt_snd]
  revert hx
  simp only [Oci.attempt]
  rcases hr : m lib h with ⟨b | e | s, w⟩ <;> simp only [Exit.ok.injEq, reduceCtorEq, false_implies]
  rintro ⟨⟩
  simpa [hr] using hm lib h a (by rw [hr])

theorem prepare_connection : Returns (fun s _ => s.connection = conn) (Statement.prepare conn sql) := by
  refine .native fun r => .bind (.true _) fun _ _ _ => ?_
  dsimp only
  split
  · split
    · exact .native fun _ => .bind (.true _) fun _ _ _ => by rw [pure_bind]; exact .pure rfl
    · rw [pure_bind]; exact .pure rfl
  · rw [pure_bind]; exact .pure rfl

theorem bind_bound [DecidableEq τ] (T : DataTypeOps τ) (self : Statement) :
    Returns (fun p _ => p.1 = self.bound value) (self.bind T tpe value) :=
  fun _ _ p hp => (bind_ok T (show _ = (Exit.ok (p.1, p.2), _) from Prod.ext hp rfl)).1

theorem runWithCursor_stmt (T : DataTypeOps τ) (self : Statement) :
    Returns (fun c _ => c.stmt = self) (self.runWithCursor T) :=
  .bind (.true _) fun _ _ _ => .bind (.true _) fun _ _ _ => .pure rfl

theorem next_stmt (c : Cursor τ) (decode : List (List UInt8 × Bool) → Except String α) :
    Returns (fun p _ => p.1.stmt = c.stmt ∧ p.1.results.map Field.inner = c.results.map Field.inner)
      (c.next decode) := by
  refine .native fun r => .bind (.true _) fun x _ _ => ?_
  split
  · exact .pure ⟨rfl, writeRow_map_inner _ _⟩
  · split
    · exact .pure ⟨rfl, writeRow_map_inner _ _⟩
    · rw [pure_bind]; exact .pure ⟨rfl, writeRow_map_inner _ _⟩

end DieselOci

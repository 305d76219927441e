import DieselOci.Native

namespace DieselOci
set_option autoImplicit true

inductive DatabaseErrorKind where
  | unableToSendCommand
  | unknown
  deriving DecidableEq, Repr

/-- The text boxed into a `DatabaseError`, by the `format!` that builds it. -/
inductive Message where
  | ociError (text : String)
  | invalidHandle (status : Int)
  | unsupportedType (tpe : Nat)
  deriving DecidableEq, Repr

/-- The part of diesel's `result::Error` that this code produces. -/
inductive Error where
  | databaseError (kind : DatabaseErrorKind) (info : Message)
  | deserializationError (msg : String)
  deriving DecidableEq, Repr

inductive BadConnectionMsg where
  | createEnvironment (code : Int)
  | debug (e : Error)
  deriving DecidableEq, Repr

inductive ConnectionError where
  | invalidConnectionUrl (msg : String)
  | badConnection (msg : BadConnectionMsg)
  deriving DecidableEq, Repr

def errbufLen : Nat := OCI_ERROR_MAXMSG_SIZE2 + 1

def errorGetCall (errorHandle : Nat) : Call :=
  .errorGet errorHandle 1 (BitVec.ofNat 32 errbufLen) OCI_HTYPE_ERROR

/-- The diagnostic buffer after `OCIErrorGet`, never written past its end. -/
def errorBuffer (res : Reply) : List UInt8 :=
  (res.bytes ++ List.replicate errbufLen 0).take errbufLen

/-- Rust's `Utf8Error`. -/
structure Utf8Error where
  validUpTo : Nat
  errorLen : Option Nat
  deriving DecidableEq, Repr

/-- `utf8_char_width`. -/
def utf8CharWidth (b : UInt8) : Nat :=
  if b < 0x80 then 1 else if b < 0xC2 then 0 else if b < 0xE0 then 2
  else if b < 0xF0 then 3 else if b < 0xF5 then 4 else 0

def isCont (b : UInt8) : Bool := 0x80 ≤ b && b ≤ 0xBF

def secondOk (first second : UInt8) : Bool :=
  if first = 0xE0 then 0xA0 ≤ second && second ≤ 0xBF
  else if first = 0xED then 0x80 ≤ second && second ≤ 0x9F
  else if first = 0xF0 then 0x90 ≤ second && second ≤ 0xBF
  else if first = 0xF4 then 0x80 ≤ second && second ≤ 0x8F
  else isCont second

/-- `run_utf8_validation` on the bytes `v` that start at offset `off`. -/
def runUtf8Validation (off : Nat) : List UInt8 → Option Utf8Error
  | [] => none
  | first :: v =>
    let w := utf8CharWidth first
    if w = 1 then runUtf8Validation (off + 1) v
    else if w = 0 then some ⟨off, some 1⟩
    else match v with
      | [] => some ⟨off, none⟩
      | b₁ :: v =>
        if !(if w = 2 then isCont b₁ else secondOk first b₁) then some ⟨off, some 1⟩
        else if w = 2 then runUtf8Validation (off + 2) v
        else match v with
          | [] => some ⟨off, none⟩
          | b₂ :: v =>
            if !isCont b₂ then some ⟨off, some 2⟩
            else if w = 3 then runUtf8Validation (off + 3) v
            else match v with
              | [] => some ⟨off, none⟩
              | b₃ :: v =>
                if !isCont b₃ then some ⟨off, some 3⟩ else runUtf8Validation (off + 4) v

/-- The `{:?}` form of the `FromUtf8Error` of `bytes`. -/
def fromUtf8ErrorDebug (bytes : List UInt8) : String :=
  let e := (runUtf8Validation 0 bytes).getD ⟨bytes.length, none⟩
  "FromUtf8Error \x7b bytes: [" ++ ", ".intercalate (bytes.map fun b => toString b.toNat) ++
    "], error: Utf8Error \x7b valid_up_to: " ++ toString e.validUpTo ++ ", error_len: " ++
    (match e.errorLen with | some n => "Some(" ++ toString n ++ ")" | none => "None") ++
    " \x7d \x7d"

/-- The panic of `String::from_utf8(errbuf).expect(..)` in `check_error`. -/
def invalidUtf8Message (bytes : List UInt8) : String :=
  "Invalid UTF-8 from OCIErrorGet: " ++ fromUtf8ErrorDebug bytes

/-- `Statement::check_error`. -/
def checkError (errorHandle : Nat) (status : Word) : Oci Error Unit :=
  if status = OCI_ERROR then do
    let res ← Oci.native (errorGetCall errorHandle)
    if res.status = OCI_NO_DATA then
      return ()
    let errbuf := errorBuffer res
    match errbuf.findIdx? (· == 0) with
    | none => Oci.panic "Expected at least one null byte"
    | some nulBytePos =>
      match String.fromUTF8? ⟨(errbuf.take nulBytePos).toArray⟩ with
      | none => Oci.panic (invalidUtf8Message (errbuf.take nulBytePos))
      | some text => Oci.throw (.databaseError .unableToSendCommand (.ociError text))
  else if status = OCI_INVALID_HANDLE then
    Oci.throw (.databaseError .unableToSendCommand (.invalidHandle status.toInt))
  else
    return ()

def diagnose (res : Reply) : Exit Error Unit :=
  if res.status = OCI_NO_DATA then .ok ()
  else match (errorBuffer res).findIdx? (· == 0) with
    | none => .panic "Expected at least one null byte"
    | some p =>
      match String.fromUTF8? ⟨((errorBuffer res).take p).toArray⟩ with
      | none => .panic (invalidUtf8Message ((errorBuffer res).take p))
      | some text => .err (.databaseError .unableToSendCommand (.ociError text))

theorem checkError_error (errorHandle : Nat) (lib : Lib) (h : List Entry) :
    checkError errorHandle OCI_ERROR lib h =
      (diagnose (lib h (errorGetCall errorHandle)),
        [⟨errorGetCall errorHandle, lib h (errorGetCall errorHandle)⟩]) := by
  simp only [checkError, if_true, Oci.native_bind, diagnose]
  split_ifs
  · rfl
  · split
    · rfl
    · split <;> rfl

theorem checkError_apply (errorHandle : Nat) (status : Word) (lib : Lib) (h : List Entry) :
    checkError errorHandle status lib h =
      if status = OCI_ERROR then
        (diagnose (lib h (errorGetCall errorHandle)),
          [⟨errorGetCall errorHandle, lib h (errorGetCall errorHandle)⟩])
      else if status = OCI_INVALID_HANDLE then
        (.err (.databaseError .unableToSendCommand (.invalidHandle status.toInt)), [])
      else (.ok (), []) := by
  split_ifs with h₁ h₂
  · subst h₁
    exact checkError_error errorHandle lib h
  · simp only [checkError, h₁, h₂, if_false, if_true]
    rfl
  · simp [checkError, h₁, h₂]

theorem checkError_issues (errorHandle : Nat) (status : Word) :
    Oci.Issues (· = errorGetCall errorHandle) (checkError errorHandle status) := by
  intro lib h e he
  rw [checkError_apply] at he
  split_ifs at he <;> simp_all

theorem diagnose_err (hd : diagnose res = .err e) : ∃ k m, e = .databaseError k m := by
  simp only [diagnose] at hd
  split_ifs at hd
  split at hd
  · cases hd
  · split at hd
    · cases hd
    · cases hd
      exact ⟨_, _, rfl⟩

theorem diagnose_eq_ok (hd : diagnose res = .ok u) : res.status = OCI_NO_DATA := by
  simp only [diagnose] at hd
  split_ifs at hd with hs
  · exact hs
  · split at hd
    · cases hd
    · split at hd <;> cases hd

theorem checkError_err (hc : (checkError errorHandle status lib h).1 = .err e) :
    ∃ k m, e = .databaseError k m := by
  rw [checkError_apply] at hc
  split_ifs at hc
  · exact diagnose_err hc
  · cases hc
    exact ⟨_, _, rfl⟩

example : (checkError 0 OCI_ERROR (fun _ _ => { status := OCI_NO_DATA }) []).1 = .ok () := by
  rw [checkError_error]
  rfl

theorem take_findIdx?_zero {buf : List UInt8} (hp : buf.findIdx? (· == 0) = some p) :
    buf.take p = buf.takeWhile (· != 0) := by
  rw [List.findIdx?_eq_some_iff_findIdx_eq] at hp
  rw [List.takeWhile_eq_take_findIdx_not, ← hp.2]
  simp only [Bool.not_not, bne]

/-- What `check_error` does after an `OCI_ERROR` with an error record. -/
theorem checkError_error_record (errorHandle : Nat) (lib : Lib) (h : List Entry)
    (hres : (lib h (errorGetCall errorHandle)).status ≠ OCI_NO_DATA) :
    (checkError errorHandle OCI_ERROR lib h).1 =
      if (0 : UInt8) ∈ errorBuffer (lib h (errorGetCall errorHandle)) then
        match String.fromUTF8?
            ⟨((errorBuffer (lib h (errorGetCall errorHandle))).takeWhile (· != 0)).toArray⟩ with
        | none => .panic (invalidUtf8Message
            ((errorBuffer (lib h (errorGetCall errorHandle))).takeWhile (· != 0)))
        | some text => .err (.databaseError .unableToSendCommand (.ociError text))
      else .panic "Expected at least one null byte" := by
  rw [checkError_error]
  simp only [diagnose, hres, if_false]
  split
  case h_1 hp =>
    rw [List.findIdx?_eq_none_iff] at hp
    have : (0 : UInt8) ∉ errorBuffer (lib h (errorGetCall errorHandle)) :=
      fun h0 => by simpa using hp 0 h0
    simp [this]
  case h_2 p hp =>
    have h0 : (0 : UInt8) ∈ errorBuffer (lib h (errorGetCall errorHandle)) := by
      obtain ⟨hlt, hz, -⟩ := List.findIdx?_eq_some_iff_getElem.1 hp
      simpa only [beq_iff_eq.1 hz] using List.getElem_mem hlt
    simp only [h0, if_true, take_findIdx?_zero hp]

theorem checkError_error_record_zero_status :
    (({} : Reply).status ≠ OCI_NO_DATA) ∧
      (checkError 0 OCI_ERROR (fun _ _ => {}) []).1 =
        if (0 : UInt8) ∈ errorBuffer {} then
          match String.fromUTF8? ⟨((errorBuffer {}).takeWhile (· != 0)).toArray⟩ with
          | none => .panic (invalidUtf8Message ((errorBuffer {}).takeWhile (· != 0)))
          | some text => .err (.databaseError .unableToSendCommand (.ociError text))
        else .panic "Expected at least one null byte" :=
  ⟨by decide, checkError_error_record 0 (fun _ _ => {}) [] (by decide)⟩

theorem validateUTF8_ff : String.validateUTF8 ⟨#[0xFF]⟩ = false := by
  rw [String.validateUTF8, String.validateUTF8.loop]
  decide

/-- A diagnostic that is not UTF-8 makes `check_error` panic. -/
theorem checkError_error_invalid_utf8 :
    (checkError 0 OCI_ERROR (fun _ _ => { bytes := [0xFF] }) []).1 =
      .panic ("Invalid UTF-8 from OCIErrorGet: FromUtf8Error \x7b bytes: [255], " ++
        "error: Utf8Error \x7b valid_up_to: 0, error_len: Some(1) \x7d \x7d") := by
  have hbuf : errorBuffer { bytes := [0xFF] } = 0xFF :: List.replicate 3072 0 := by
    simp only [errorBuffer, errbufLen, OCI_ERROR_MAXMSG_SIZE2, List.singleton_append,
      List.take_succ_cons, List.take_replicate]
    rfl
  have hz : List.findIdx? (· == 0) (List.replicate 3072 (0 : UInt8)) = some 0 := by
    rw [List.replicate_succ, List.findIdx?_cons, if_pos (by decide)]
  have hu : String.fromUTF8? ⟨#[0xFF]⟩ = none := by
    simp only [String.fromUTF8?, validateUTF8_ff]
    rfl
  rw [checkError_error, diagnose, hbuf, if_neg (by decide), List.findIdx?_cons,
    if_neg (by decide), List.findIdx?_start_succ, hz]
  simp only [Option.map_some', List.take_succ_cons, List.take_zero]
  rw [hu]
  rfl

end DieselOci

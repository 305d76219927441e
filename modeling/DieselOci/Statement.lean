import DieselOci.Connection

namespace DieselOci
set_option autoImplicit true

open Oci

/-- The part of `oracle::types` that the statement code uses, which is not among the sources. -/
structure DataTypeOps (τ : Type) where
  float : τ
  char : τ
  toRaw : τ → Nat
  fromRaw : Nat → Option τ

/-- `Field`: the define handle, the output buffer, the null indicator and the type. -/
structure Field (τ : Type) where
  inner : Nat
  buffer : List UInt8
  nullIndicator : BitVec 16
  typ : τ
  deriving DecidableEq, Repr

def Field.isNull (f : Field τ) : Bool := f.nullIndicator == -1

/-- `Drop for Field`. -/
def Field.drop (f : Field τ) : Oci ε Unit := do
  let _ ← native (.handleFree f.inner OCI_HTYPE_DEFINE)

def dropFields : List (Field τ) → Oci ε Unit
  | [] => pure ()
  | f :: fs => do f.drop; dropFields fs

/-- `Statement`; the `Rc<RawConnection>` is the connection it reads. -/
structure Statement where
  connection : RawConnection
  innerStatement : Nat
  bindIndex : Word
  isSelect : Bool
  buffers : List (List UInt8)
  sizes : List Word
  indicators : List (BitVec 16)
  deriving DecidableEq, Repr

/-- `str::find` with a string pattern: the byte offset of the first occurrence. -/
def strFind.go (pat : List Char) : List Char → Nat → Option Nat
  | [], off => if pat = [] then some off else none
  | c :: cs, off => if pat <+: c :: cs then some off else go pat cs (off + c.utf8Size)

def strFind (s pat : String) : Option Nat := strFind.go pat.data s.data 0

/-- `str::contains` with a string pattern. -/
def strContains (s pat : String) : Bool := decide (pat.data <:+: s.data)

/-- `Statement::prepare`. -/
def Statement.prepare (rawConnection : RawConnection) (sql : String) : Oci Error Statement := do
  let mysql := sql
  let errh := rawConnection.env.errorHandle
  let prepareCall := Call.stmtPrepare2 rawConnection.serviceHandle errh mysql
    (BitVec.ofNat 32 mysql.utf8ByteSize)
  let r ← native prepareCall
  checkError errh r.status
  let stmt ← match strFind mysql "CREATE" with
    | some u =>
      if u < 10 then do
        let r ← native prepareCall
        checkError errh r.status
        pure r.handle
      else pure r.handle
    | none => pure r.handle
  return { connection := rawConnection, innerStatement := stmt, bindIndex := 0,
           isSelect := strContains sql "SELECT" || strContains sql "select",
           buffers := [], sizes := [], indicators := [] }

def Statement.errorHandle (self : Statement) : Nat := self.connection.env.errorHandle

/-- `Statement::run`. -/
def Statement.run (self : Statement) : Oci Error Unit := do
  let iters := if self.isSelect then 0 else 1
  let r ← native (.stmtExecute self.connection.serviceHandle self.innerStatement
    self.errorHandle iters)
  checkError self.errorHandle r.status

/-- `Statement::get_affected_rows`. -/
def Statement.getAffectedRows (self : Statement) : Oci Error Nat := do
  let r ← native (.attrGet self.innerStatement OCI_HTYPE_STMT OCI_ATTR_ROW_COUNT
    self.errorHandle)
  checkError self.errorHandle r.status
  return r.value % 2 ^ 32

/-- `Statement::get_column_count`. -/
def Statement.getColumnCount (self : Statement) : Oci Error Nat := do
  let r ← native (.attrGet self.innerStatement OCI_HTYPE_STMT OCI_ATTR_PARAM_COUNT
    self.errorHandle)
  checkError self.errorHandle r.status
  return r.value % 2 ^ 32

def doubleFamily : List Nat := [SQLT_BDOUBLE, SQLT_LNG, SQLT_IBDOUBLE]

def floatFamily : List Nat := [SQLT_FLT, SQLT_BFLOAT, SQLT_IBFLOAT]

def charFamily : List Nat :=
  [SQLT_CHR, SQLT_VCS, SQLT_LVC, SQLT_AFC, SQLT_VST, SQLT_ODT, SQLT_DATE, SQLT_TIMESTAMP,
    SQLT_TIMESTAMP_TZ, SQLT_TIMESTAMP_LTZ]

/-- The width of a `NUMBER` of scale 0, by its precision. -/
def numberSize (precision : Int) : Nat :=
  match precision with
  | 5 => 2
  | 10 => 4
  | 19 => 8
  | _ => 21

def Statement.paramAttr (self : Statement) (colHandle attr : Nat) : Oci Error Nat := do
  let r ← native (.attrGet colHandle OCI_DTYPE_PARAM attr self.errorHandle)
  checkError self.errorHandle r.status
  return r.value

/-- `Statement::get_attr_type_and_size`. -/
def Statement.getAttrTypeAndSize (self : Statement) (colHandle : Nat) :
    Oci Error (Nat × Nat) := do
  let tpe := (← self.paramAttr colHandle OCI_ATTR_DATA_TYPE) % 2 ^ 32
  if tpe = SQLT_INT ∨ tpe = SQLT_UIN then
    return (tpe, 8)
  else if tpe = SQLT_NUM then
    let precision := (BitVec.ofNat 16 (← self.paramAttr colHandle OCI_ATTR_PRECISION)).toInt
    let scale := (BitVec.ofNat 8 (← self.paramAttr colHandle OCI_ATTR_SCALE)).toInt
    if scale = 0 then return (SQLT_INT, numberSize precision)
    else return (SQLT_FLT, 8)
  else if tpe ∈ doubleFamily then
    return (SQLT_BDOUBLE, 8)
  else if tpe ∈ floatFamily then
    return (SQLT_BFLOAT, 4)
  else if tpe ∈ charFamily then
    return (SQLT_STR, (← self.paramAttr colHandle OCI_ATTR_CHAR_SIZE) % 2 ^ 32)
  else
    throw (.databaseError .unknown (.unsupportedType tpe))

variable (T : DataTypeOps τ)

/-- `Statement::define`. -/
def Statement.define (self : Statement) (fields : List (Field τ)) (tpe tpeSize colNumber : Nat) :
    Oci Error (List (Field τ)) := do
  let v := List.replicate tpeSize (0 : UInt8)
  let nullIndicator : BitVec 16 := -1
  let r ← native (.defineByPos self.innerStatement self.errorHandle (BitVec.ofNat 32 colNumber)
    v (BitVec.ofNat 32 v.length) (BitVec.ofNat 16 tpe) nullIndicator)
  checkError self.errorHandle r.status
  match T.fromRaw tpe with
  | some t => return fields ++ [⟨r.handle, v, nullIndicator, t⟩]
  | none => throw (.databaseError .unknown (.unsupportedType tpe))

/-- `Statement::define_column`. -/
def Statement.defineColumn (self : Statement) (fields : List (Field τ)) (colNumber : Nat) :
    Oci Error (List (Field τ)) := do
  let r ← native (.paramGet self.innerStatement OCI_HTYPE_STMT self.errorHandle
    (BitVec.ofNat 32 colNumber))
  checkError self.errorHandle r.status
  let (tpe, tpeSize) ← self.getAttrTypeAndSize r.handle
  self.define T fields tpe tpeSize colNumber

/-- The loop of `define_all_columns` from the index `i`, with `n` columns left. -/
def Statement.defineColumns (self : Statement) : Nat → Nat → List (Field τ) →
    Oci Error (List (Field τ))
  | _, 0, fields => pure fields
  | i, n + 1, fields => do
    let fields ← onAbort (dropFields fields) (self.defineColumn T fields (i + 1))
    self.defineColumns (i + 1) n fields

/-- `Statement::define_all_columns`. -/
def Statement.defineAllColumns (self : Statement) : Oci Error (List (Field τ)) := do
  let colCount ← self.getColumnCount
  self.defineColumns T 0 colCount []

structure Cursor (τ : Type) where
  stmt : Statement
  results : List (Field τ)
  currentRow : Word
  deriving DecidableEq, Repr

def Cursor.new (stmt : Statement) (binds : List (Field τ)) : Cursor τ := ⟨stmt, binds, 0⟩

/-- `Statement::run_with_cursor`. -/
def Statement.runWithCursor (self : Statement) : Oci Error (Cursor τ) := do
  self.run
  let fields ← self.defineAllColumns T
  return Cursor.new self fields

variable [DecidableEq τ]

def bindBuffer : Option (List UInt8) → List UInt8 × Word × BitVec 16
  | some value => (value, BitVec.ofNat 32 value.length, 0)
  | none => ([], 0, -1)

/-- `Statement::bind`, returning the statement with its result. -/
def Statement.bind (self : Statement) (tpe : τ) (value : Option (List UInt8)) :
    Oci Error (Statement × Except Error Unit) := do
  let bindIndex := self.bindIndex + 1
  let (buf, size, nullind) := bindBuffer value
  let r ← native (.bindByPos self.innerStatement self.errorHandle bindIndex buf
    (BitVec.ofNat 32 buf.length)
    (if size = 4 ∧ tpe = T.float then BitVec.ofNat 16 SQLT_BFLOAT
      else BitVec.ofNat 16 (T.toRaw tpe))
    nullind)
  let bound : Statement :=
    { self with
      bindIndex := bindIndex
      buffers := self.buffers ++ [buf]
      sizes := self.sizes ++ [size]
      indicators := self.indicators ++ [nullind] }
  let res ← attempt do
    checkError self.errorHandle r.status
    if tpe = T.char then
      let _ ← native (.attrSet r.handle OCI_HTYPE_BIND (.charset self.connection.env.csId) 0
        OCI_ATTR_CHARSET_ID self.errorHandle)
  return (bound, res)

/-- `Drop for Statement`. -/
def Statement.drop (self : Statement) : Oci Error Unit := do
  let r ← native (.stmtRelease self.innerStatement self.errorHandle)
  let _ ← (attempt (checkError self.errorHandle r.status) : Oci Error _)

end DieselOci

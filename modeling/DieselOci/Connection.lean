import DieselOci.Url

namespace DieselOci
set_option autoImplicit true

open Oci

structure ConnectionEnviroment where
  handle : Nat
  errorHandle : Nat
  csId : Nat
  deriving DecidableEq, Repr

/-- `alloc_handle`: the status of `OCIHandleAlloc` is not read. -/
def allocHandle (env htype : Nat) : Oci ε Nat := do
  let r ← native (.handleAlloc env htype)
  return r.handle

/-- `ConnectionEnviroment::new`. -/
def ConnectionEnviroment.new : Oci ConnectionError ConnectionEnviroment := do
  let r ← native .envNlsCreate
  if r.status ≠ 0 then
    throw (.badConnection (.createEnvironment r.status.toInt))
  let envHandle := r.handle
  let errorHandle ← allocHandle envHandle OCI_HTYPE_ERROR
  let cs ← native (.nlsCharSetNameToId envHandle "UTF8")
  return { handle := envHandle, errorHandle, csId := cs.value % 2 ^ 16 }

/-- `Drop for ConnectionEnviroment`. -/
def ConnectionEnviroment.drop (env : ConnectionEnviroment) : Oci ε Unit := do
  let _ ← native (.handleFree env.errorHandle OCI_HTYPE_ERROR)
  let _ ← native (.handleFree env.handle OCI_HTYPE_ENV)

structure RawConnection where
  env : ConnectionEnviroment
  serviceHandle : Nat
  serverHandle : Nat
  sessionHandle : Nat
  transactionHandle : Nat
  deriving DecidableEq, Repr

/-- `RawConnection::establish`; after `env` is created, an early return or a panic drops it. -/
def RawConnection.establish (databaseUrl : String) : Oci ConnectionError RawConnection := do
  let (username, password, database) ← lift (parseDbString databaseUrl)
  let env ← ConnectionEnviroment.new
  onAbort env.drop do
    let serverHandle ← allocHandle env.handle OCI_HTYPE_SERVER
    let serviceHandle ← allocHandle env.handle OCI_HTYPE_SVCCTX
    let sessionHandle ← allocHandle env.handle OCI_HTYPE_SESSION
    let transactionHandle ← allocHandle env.handle OCI_HTYPE_TRANS
    let r ← native (.serverAttach serverHandle env.errorHandle database
      (BitVec.ofNat 32 database.utf8ByteSize))
    mapErr (fun e => .badConnection (.debug e)) (checkError env.errorHandle r.status)
    let _ ← native (.attrSet serviceHandle OCI_HTYPE_SVCCTX (.handle serverHandle) 0
      OCI_ATTR_SERVER env.errorHandle)
    let _ ← native (.attrSet sessionHandle OCI_HTYPE_SESSION (.text username)
      (BitVec.ofNat 32 username.utf8ByteSize) OCI_ATTR_USERNAME env.errorHandle)
    let _ ← native (.attrSet sessionHandle OCI_HTYPE_SESSION (.text password)
      (BitVec.ofNat 32 password.utf8ByteSize) OCI_ATTR_PASSWORD env.errorHandle)
    let r ← native (.sessionBegin serviceHandle env.errorHandle sessionHandle OCI_CRED_RDBMS)
    mapErr (fun e => .badConnection (.debug e)) (checkError env.errorHandle r.status)
    let _ ← native (.attrSet serviceHandle OCI_HTYPE_SVCCTX (.handle sessionHandle) 0
      OCI_ATTR_SESSION env.errorHandle)
    let _ ← native (.attrSet serviceHandle OCI_HTYPE_SVCCTX (.handle transactionHandle) 0
      OCI_ATTR_TRANS env.errorHandle)
    return { env, serviceHandle, serverHandle, sessionHandle, transactionHandle }

/-- `Drop for RawConnection`, then the drop of its `env` field. -/
def RawConnection.drop (c : RawConnection) : Oci ε Unit := do
  let _ ← native (.sessionEnd c.serviceHandle c.env.errorHandle c.sessionHandle)
  let _ ← native (.serverDetach c.serverHandle c.env.errorHandle)
  let _ ← native (.handleFree c.sessionHandle OCI_HTYPE_SESSION)
  let _ ← native (.handleFree c.serviceHandle OCI_HTYPE_SVCCTX)
  let _ ← native (.handleFree c.serverHandle OCI_HTYPE_ENV)
  let _ ← native (.handleFree c.transactionHandle OCI_HTYPE_TRANS)
  c.env.drop

end DieselOci

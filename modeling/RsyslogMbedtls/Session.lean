import RsyslogMbedtls.Basic

namespace RsyslogMbedtls
open Body

-- What nsd_ptcp, the C library and Mbed TLS answer during one Connect or AcceptConnReq. A call
-- with an out parameter answers its status and the value it writes, used only on RS_RET_OK.
structure Lib where
  construct : RsRetVal × Option Nat
  ptcpDestruct : RsRetVal
  ptcpAcceptConnReq : RsRetVal × Nat
  ptcpConnect : RsRetVal
  strdupPeerOk : Bool
  strdupFileOk : Cred → Bool
  customString : RsRetVal × String
  drbgSeed : Int
  dflt : Cred → Option String
  parse : Cred → String → Int
  confDefaults : Int
  confOwnCert : Int
  sslSetup : Int
  setHostname : Int
  getSock : RsRetVal × Int
  handshake : Int
  closeNotify : List Int

def mbedtlsInitSession (lib : Lib) : Body NsdMbedtls Unit :=
  onError (do chk lib.customString.1; ext (.drbgSeed lib.customString.2) (ofMbedtls lib.drbgSeed))
    (fun iRet => call (.logError iRet "mbedtlsInitSession failed to INIT Session"))

-- The file a credential is loaded from: the configured one, else the process-wide default.
def resolved (lib : Lib) (d : NsdMbedtls) (c : Cred) : Option String :=
  match d.file c with
  | none => lib.dflt c
  | some f => some f

-- One block of mbedtlsInitCred: the object is emptied before the parse and marked loaded after it.
def loadCred (lib : Lib) (c : Cred) : Body NsdMbedtls Unit := do
  let pThis ← get
  match resolved lib pThis c with
  | none => pure ()
  | some f => do
    modify (·.setLoaded none c)
    ext (.parse c f) (ofMbedtls (lib.parse c f))
    modify fun d => (d.setLoaded (some f) c).setBHave c

def mbedtlsInitCred (lib : Lib) : Body NsdMbedtls Unit :=
  onError (do loadCred lib .key; loadCred lib .cert; loadCred lib .ca; loadCred lib .crl)
    (fun _ => call (.logMsg .err logErr "nsd mbedtls: error parsing crypto config"))

-- CHKiRet(nsd_ptcp.GetSock(pThis->pTcp, &(pThis->sock)))
def getSockInto (r : RsRetVal × Int) : Body NsdMbedtls Unit := fun pThis =>
  if h : r.1 = .ok then (.ok (),{pThis with sock := r.2},[.ptcp .getSock])
  else (.error ⟨r.1,h⟩,pThis,[.ptcp .getSock])

def handshakeChk (mbedtlsRet : Int) : Body NsdMbedtls Unit :=
  if mbedtlsRet ≠ 0 ∧ mbedtlsRet ≠ mbedtlsErrSslWantRead ∧ mbedtlsRet ≠ mbedtlsErrSslWantWrite then do
    call (.logMbedtlsError .tlsHandshakeErr mbedtlsRet)
    Body.abort ⟨.tlsHandshakeErr,nofun⟩
  else pure ()

def caChain (d : NsdMbedtls) : Call :=
  .confCaChain (if d.bHaveCaCert then some d.cacert else none) (if d.bHaveCrl then some d.crl else none)

-- The TLS block Connect and AcceptConnReq both run; the two copies in the source differ only in the
-- endpoint and in the name passed to mbedtls_ssl_set_hostname.
def tlsHandshake (lib : Lib) (endpoint : Int) (hostname : NsdMbedtls → Option String) :
    Body NsdMbedtls Unit := do
  let pThis ← get
  ext (.confDefaults endpoint) (ofMbedtls lib.confDefaults)
  call .confRng
  call (.confAuthmode pThis.authMode)
  call (caChain pThis)
  call (.confVerify pThis.drvrVerifyDepth)
  if pThis.bHaveKey && pThis.bHaveCert then
    ext (.confOwnCert pThis.srvcert pThis.pkey) (ofMbedtls lib.confOwnCert)
  ext .sslSetup (ofMbedtls lib.sslSetup)
  ext (.setHostname (hostname pThis)) (ofMbedtls lib.setHostname)
  getSockInto lib.getSock
  let pThis ← get
  call (.setBio pThis.sock)
  call .handshake
  handshakeChk lib.handshake

def connectPeerName (host : String) (pThis : NsdMbedtls) : Option String :=
  if pThis.bChkName then some (pThis.pPermPeer.getD host) else none

def connectTls (lib : Lib) (host : String) : Body NsdMbedtls Unit :=
  tlsHandshake lib mbedtlsSslIsClient (connectPeerName host)

def connectBody (lib : Lib) (family : Int) (port host : String) (device : Option String) :
    Body NsdMbedtls Unit := do
  mbedtlsInitSession lib
  mbedtlsInitCred lib
  ext (.ptcp (.connect family port host device)) lib.ptcpConnect
  let pThis ← get
  if pThis.iMode = 0 then pure ()
  else do
    connectTls lib host
    modify ({· with bHaveSess := true})

def connect (lib : Lib) (family : Int) (port host : String) (device : Option String) : Proc NsdMbedtls :=
  finish (connectBody lib family port host device)

def acceptPeerName (pNew : NsdMbedtls) : Option String :=
  if pNew.bChkName && pNew.pPermPeer.isSome then pNew.pPermPeer else none

def acceptTls (lib : Lib) : Body NsdMbedtls Unit :=
  tlsHandshake lib mbedtlsSslIsServer acceptPeerName

-- `if(pThis->pszX) CHKmalloc(pNew->pszX = strdup(pThis->pszX))`, for the four paths
def copyFile (lib : Lib) (pThis : NsdMbedtls) (c : Cred) : Body NsdMbedtls Unit := fun pNew =>
  match pThis.file c with
  | none => (.ok (),pNew,[])
  | some f =>
    if lib.strdupFileOk c then (.ok (),pNew.setFile (some f) c,[])
    else (.error ⟨.outOfMemory,nofun⟩,pNew.setFile none c,[])

def copyPermPeer (lib : Lib) (pThis : NsdMbedtls) : Body NsdMbedtls Unit := fun pNew =>
  match pThis.pPermPeer with
  | none => (.ok (),pNew,[])
  | some p =>
    if lib.strdupPeerOk then (.ok (),{pNew with pPermPeer := some p},[])
    else (.error ⟨.outOfMemory,nofun⟩,{pNew with pPermPeer := none},[])

-- "copy Properties to pnew first"
def acceptCopy (lib : Lib) (pThis : NsdMbedtls) : Body NsdMbedtls Unit := do
  modify ({· with authMode := pThis.authMode, bChkName := pThis.bChkName})
  copyPermPeer lib pThis
  modify ({· with drvrVerifyDepth := pThis.drvrVerifyDepth})
  copyFile lib pThis .cert
  copyFile lib pThis .key
  copyFile lib pThis .ca
  copyFile lib pThis .crl
  modify ({· with iMode := pThis.iMode})

-- "if we reach this point, we are in TLS mode": the session bootstrap on the new driver.
def acceptBootstrap (lib : Lib) : Body NsdMbedtls Unit := do
  mbedtlsInitSession lib
  mbedtlsInitCred lib
  acceptTls lib
  modify ({· with bHaveSess := true})

def acceptSession (lib : Lib) (pThis : NsdMbedtls) : Body NsdMbedtls Unit := do
  acceptCopy lib pThis
  acceptBootstrap lib

-- nsd_ptcp.AcceptConnReq(pThis->pTcp, &pNew->pTcp)
def ptcpAcceptInto (r : RsRetVal × Nat) : Body NsdMbedtls Unit := fun pNew =>
  if h : r.1 = .ok then (.ok (),{pNew with pTcp := some r.2},[.ptcp .acceptConnReq])
  else (.error ⟨r.1,h⟩,pNew,[.ptcp .acceptConnReq])

-- AcceptConnReq from CHKiRet(nsd_ptcp.Destruct(&pNew->pTcp)) on, run on the new driver.
def acceptBody (lib : Lib) (pThis : NsdMbedtls) : Body NsdMbedtls Unit := do
  let pNew ← get
  modify ({· with pTcp := none})
  ext (.ptcp (.destruct pNew.pTcp)) lib.ptcpDestruct
  ptcpAcceptInto lib.ptcpAcceptConnReq
  if pThis.iMode = 0 then pure () else acceptSession lib pThis

-- mbedtlsEndSess's loop on the answers of mbedtls_ssl_close_notify; `none` when they run out with
-- the loop still going.
def closeNotifyLoop : List Int → Option (List Call)
  | [] => none
  | r :: rest =>
    if r ≠ 0 ∧ (r = mbedtlsErrSslWantRead ∨ r = mbedtlsErrSslWantWrite) then
      (closeNotifyLoop rest).map (.closeNotify :: ·)
    else some [.closeNotify]

theorem closeNotifyLoop_eq (answers : List Int) :
    closeNotifyLoop answers =
      (answers.findIdx? fun r => !decide (r ≠ 0 ∧ (r = mbedtlsErrSslWantRead ∨ r = mbedtlsErrSslWantWrite))).map
        fun i => List.replicate (i+1) .closeNotify := by
  induction answers with
  | nil => rfl
  | cons r rest ih =>
    rw [closeNotifyLoop,List.findIdx?_cons,List.findIdx?_succ]
    by_cases blocked : r ≠ 0 ∧ (r = mbedtlsErrSslWantRead ∨ r = mbedtlsErrSslWantWrite)
    · rw [if_pos blocked,if_neg (by simp [blocked]),ih,Option.map_map,Option.map_map]
      rfl
    · rw [if_neg blocked,if_pos (by simpa only [Bool.not_eq_true',decide_eq_false_iff_not] using blocked)]
      rfl

theorem closeNotifyLoop_head (answers : List Int) (calls : List Call) (ended : closeNotifyLoop answers = some calls) :
    calls.head? = some .closeNotify := by
  rw [closeNotifyLoop_eq] at ended
  obtain ⟨i,-,rfl⟩ := Option.map_eq_some'.1 ended
  rfl

def mbedtlsEndSess (answers : List Int) (pThis : NsdMbedtls) : Option (NsdMbedtls × List Call) :=
  if pThis.bHaveSess then (closeNotifyLoop answers).map fun l => ({pThis with bHaveSess := false},l)
  else some (pThis,[])

def nsdMbedtlsDestruct (answers : List Int) (pThis : NsdMbedtls) : Option (List Call) := do
  let (pThis,ended) ← if pThis.iMode = 1 then mbedtlsEndSess answers pThis else some (pThis,[])
  pure (ended ++ (if pThis.pTcp.isSome then [.ptcp (.destruct pThis.pTcp)] else []) ++ [.release])

theorem destruct_without_session (answers : List Int) (pThis : NsdMbedtls) (noSess : pThis.bHaveSess = false) :
    nsdMbedtlsDestruct answers pThis =
      some ((if pThis.pTcp.isSome then [.ptcp (.destruct pThis.pTcp)] else []) ++ [.release]) := by
  unfold nsdMbedtlsDestruct mbedtlsEndSess
  split <;> simp [noSess]

-- The listener is read only. *ppNew is written at the two successful exits and nowhere else;
-- on failure the partly built driver is destructed. `none` when that destructor never returns.
def acceptConnReq (lib : Lib) (pThis : NsdMbedtls) : Option (RsRetVal × Option NsdMbedtls × List Call) :=
  if lib.construct.1 ≠ .ok then some (lib.construct.1,none,[])
  else
    match finish (acceptBody lib pThis) (nsdMbedtlsConstruct lib.construct.2) with
    | (.ok,pNew,l) => some (.ok,some pNew,.ptcp .construct :: l)
    | (r,pNew,l) => (nsdMbedtlsDestruct lib.closeNotify pNew).map fun d => (r,none,.ptcp .construct :: l ++ d)

-- A view of the driver that the TLS bootstrap does not write.
structure BootBlind {τ : Type} (π : NsdMbedtls → τ) : Prop where
  sock : ∀ d n, π {d with sock := n} = π d
  loaded : ∀ d v c, π (d.setLoaded v c) = π d
  bHave : ∀ d c, π (d.setBHave c) = π d

section Frames
variable {τ : Type} {π : NsdMbedtls → τ} (lib : Lib)

theorem initSession_keeps : Keeps π (mbedtlsInitSession lib) :=
  Keeps.onError' (Keeps.bind (Keeps.chk' _) fun _ => Keeps.ext' _ _) fun _ => Keeps.call' _

theorem handshakeChk_keeps (n : Int) : Keeps π (handshakeChk n) :=
  Keeps.ite' (Keeps.bind (Keeps.call' _) fun _ => Keeps.abort' _) (Keeps.pure' _)

variable (blind : BootBlind π)
include blind

theorem loadCred_keeps (c : Cred) : Keeps π (loadCred lib c) := by
  refine Keeps.bind Keeps.get' fun d => ?_
  split
  · exact Keeps.pure' _
  · exact Keeps.bind (Keeps.modify' fun s => blind.loaded s _ c) fun _ => Keeps.bind (Keeps.ext' _ _)
      fun _ => Keeps.modify' fun s => (blind.bHave _ c).trans (blind.loaded s _ c)

theorem initCred_keeps : Keeps π (mbedtlsInitCred lib) :=
  Keeps.onError' (Keeps.bind (loadCred_keeps lib blind _) fun _ => Keeps.bind (loadCred_keeps lib blind _)
    fun _ => Keeps.bind (loadCred_keeps lib blind _) fun _ => loadCred_keeps lib blind _) fun _ => Keeps.call' _

theorem getSockInto_keeps (r : RsRetVal × Int) : Keeps π (getSockInto r) := by
  intro d; unfold getSockInto; split
  · exact blind.sock d _
  · rfl

theorem tlsHandshake_keeps (endpoint : Int) (hostname : NsdMbedtls → Option String) :
    Keeps π (tlsHandshake lib endpoint hostname) := by
  unfold tlsHandshake
  repeat' first
    | with_reducible exact Keeps.get' | with_reducible exact Keeps.call' _
    | with_reducible exact Keeps.ext' _ _ | with_reducible exact Keeps.pure' _
    | with_reducible exact getSockInto_keeps blind _ | with_reducible exact handshakeChk_keeps _
    | with_reducible apply Keeps.bind | with_reducible apply Keeps.ite' | intro _

end Frames

section Copy
variable (lib : Lib) (pThis : NsdMbedtls)

theorem copyPermPeer_sets :
    Sets (fun d => {d with pPermPeer := pThis.pPermPeer.or d.pPermPeer}) (copyPermPeer lib pThis) := by
  intro d a ok
  cases e : pThis.pPermPeer <;> cases h : lib.strdupPeerOk <;> simp_all [copyPermPeer]

theorem copyFile_sets (c : Cred) :
    Sets (fun d => d.setFile ((pThis.file c).or (d.file c)) c) (copyFile lib pThis c) := by
  intro d a ok
  cases e : pThis.file c <;> cases h : lib.strdupFileOk c <;> simp_all [copyFile] <;> cases c <;> rfl

theorem acceptCopy_ok (s : NsdMbedtls) (peer : s.pPermPeer = none) (files : ∀ c, s.file c = none)
    (copied : (acceptCopy lib pThis s).1 = .ok ()) : (acceptCopy lib pThis s).2.1 = s.withConfig pThis.config := by
  have copy : Sets _ (acceptCopy lib pThis) :=
    Sets.bind (Sets.modify' _) fun _ => Sets.bind (copyPermPeer_sets lib pThis) fun _ =>
    Sets.bind (Sets.modify' _) fun _ => Sets.bind (copyFile_sets lib pThis .cert) fun _ =>
    Sets.bind (copyFile_sets lib pThis .key) fun _ => Sets.bind (copyFile_sets lib pThis .ca) fun _ =>
    Sets.bind (copyFile_sets lib pThis .crl) fun _ => Sets.modify' _
  rw [copy s () copied]
  have := files .key; have := files .cert; have := files .ca; have := files .crl
  simp_all [NsdMbedtls.file,NsdMbedtls.setFile,NsdMbedtls.withConfig,NsdMbedtls.config]

theorem copyPermPeer_of_ok (ok : lib.strdupPeerOk = true) (d : NsdMbedtls) :
    copyPermPeer lib pThis d = (.ok (),{d with pPermPeer := pThis.pPermPeer.or d.pPermPeer},[]) := by
  unfold copyPermPeer; split <;> simp_all

theorem copyFile_of_ok (c : Cred) (ok : lib.strdupFileOk c = true) (d : NsdMbedtls) :
    copyFile lib pThis c d = (.ok (),d.setFile ((pThis.file c).or (d.file c)) c,[]) := by
  unfold copyFile; split <;> simp_all; cases c <;> rfl

theorem acceptCopy_of_strdup_ok (copied : lib.strdupPeerOk = true ∧ ∀ c, lib.strdupFileOk c = true)
    (s : NsdMbedtls) (peer : s.pPermPeer = none) (files : ∀ c, s.file c = none) :
    acceptCopy lib pThis s = (.ok (),s.withConfig pThis.config,[]) := by
  have run : (acceptCopy lib pThis s).1 = .ok () ∧ (acceptCopy lib pThis s).2.2 = [] := by
    simp [acceptCopy,copyPermPeer_of_ok lib pThis copied.1,copyFile_of_ok lib pThis _ (copied.2 _)]
  rw [← acceptCopy_ok lib pThis s peer files run.1,← run.1,← run.2]

theorem acceptCopy_keeps_sess : Keeps (fun d => (d.bHaveSess,d.pTcp)) (acceptCopy lib pThis) := by
  have peer : Keeps (fun d => (d.bHaveSess,d.pTcp)) (copyPermPeer lib pThis) := fun d => by
    unfold copyPermPeer; split <;> (try split) <;> rfl
  have file : ∀ c, Keeps (fun d => (d.bHaveSess,d.pTcp)) (copyFile lib pThis c) := fun c d => by
    unfold copyFile; split <;> (try split) <;> cases c <;> rfl
  exact Keeps.bind (Keeps.modify' fun _ => rfl) fun _ => Keeps.bind peer fun _ =>
    Keeps.bind (Keeps.modify' fun _ => rfl) fun _ => Keeps.bind (file _) fun _ => Keeps.bind (file _) fun _ =>
    Keeps.bind (file _) fun _ => Keeps.bind (file _) fun _ => Keeps.modify' fun _ => rfl

end Copy

section Specs
variable (lib : Lib)

def loadCredState (c : Cred) (s : NsdMbedtls) : NsdMbedtls :=
  ((resolved lib s c).map fun f => ((s.setLoaded none c).setLoaded (some f) c).setBHave c).getD s

@[simp] theorem resolved_loadCredState (c c' : Cred) (s : NsdMbedtls) :
    resolved lib (loadCredState lib c s) c' = resolved lib s c' := by
  unfold loadCredState
  cases resolved lib s c <;> simp [resolved]

@[simp] theorem bHave_loadCredState (c c' : Cred) (s : NsdMbedtls) :
    (loadCredState lib c s).bHave c' = if c' = c then (resolved lib s c).isSome || s.bHave c' else s.bHave c' := by
  unfold loadCredState
  cases resolved lib s c <;> by_cases e : c' = c <;> simp [e]

@[simp] theorem loaded_loadCredState (c c' : Cred) (s : NsdMbedtls) :
    (loadCredState lib c s).loaded c' = if c' = c then (resolved lib s c).or (s.loaded c') else s.loaded c' := by
  unfold loadCredState
  cases resolved lib s c <;> by_cases e : c' = c <;> simp [e]

@[simp] theorem config_loadCredState (c : Cred) (s : NsdMbedtls) : (loadCredState lib c s).config = s.config := by
  unfold loadCredState
  cases resolved lib s c <;> cases c <;> rfl

theorem loadCred_yields (c : Cred) :
    Yields (loadCredState lib c) (fun s => (resolved lib s c).toList.map (.parse c)) (loadCred lib c) :=
  fun s a ok => by
  unfold loadCred at ok ⊢
  unfold loadCredState
  simp only [bind_apply,get_apply] at ok ⊢
  cases e : resolved lib s c with
  | none => simp only [e] at ok ⊢; exact ⟨rfl,rfl⟩
  | some f =>
    simp only [e] at ok ⊢
    exact (Yields.bind (Yields.modify' _) fun _ => Yields.bind (Yields.ext' _ _) fun _ => Yields.modify' _) s a ok

def loadCreds (s : NsdMbedtls) : NsdMbedtls :=
  loadCredState lib .crl (loadCredState lib .ca (loadCredState lib .cert (loadCredState lib .key s)))

def credParses (s : NsdMbedtls) : List Call :=
  [Cred.key,.cert,.ca,.crl].filterMap fun c => (resolved lib s c).map (.parse c)

@[simp] theorem config_loadCreds (s : NsdMbedtls) : (loadCreds lib s).config = s.config := by
  simp only [loadCreds,config_loadCredState]

theorem credParses_eq (s : NsdMbedtls) :
    credParses lib s = (resolved lib s .key).toList.map (.parse .key) ++ ((resolved lib s .cert).toList.map (.parse .cert) ++
      ((resolved lib s .ca).toList.map (.parse .ca) ++ (resolved lib s .crl).toList.map (.parse .crl))) := by
  simp only [credParses,List.filterMap_cons,List.filterMap_nil]
  cases resolved lib s .key <;> cases resolved lib s .cert <;> cases resolved lib s .ca <;>
    cases resolved lib s .crl <;> rfl

theorem initCred_yields : Yields (loadCreds lib) (credParses lib) (mbedtlsInitCred lib) :=
  Yields.onError' (Yields.of_eq (Yields.bind (loadCred_yields lib .key) fun _ =>
    Yields.bind (loadCred_yields lib .cert) fun _ => Yields.bind (loadCred_yields lib .ca) fun _ =>
    loadCred_yields lib .crl) rfl (funext fun s => by simp only [resolved_loadCredState,credParses_eq])) _

theorem loadCreds_fresh (d : NsdMbedtls) (fresh : d.Fresh) (c : Cred) :
    (loadCreds lib d).bHave c = (resolved lib d c).isSome ∧ (loadCreds lib d).loaded c = resolved lib d c := by
  obtain ⟨none,empty⟩ := fresh c
  cases c <;> simp [loadCreds,none,empty]

theorem bHave_loadCreds (s : NsdMbedtls) (c : Cred) :
    (loadCreds lib s).bHave c = ((resolved lib s c).isSome || s.bHave c) := by
  cases c <;> simp [loadCreds]

theorem loadCred_parsed (c : Cred) (s : NsdMbedtls) (ok : (loadCred lib c s).1 = .ok ()) (f : String)
    (res : resolved lib s c = some f) : lib.parse c f = 0 := by
  by_contra failed
  simp [loadCred,res,ofMbedtls,failed] at ok

theorem initCred_parsed (s : NsdMbedtls) (ok : (mbedtlsInitCred lib s).1 = .ok ()) (c : Cred) (f : String)
    (res : resolved lib s c = some f) : lib.parse c f = 0 := by
  simp only [mbedtlsInitCred,onError_apply] at ok
  split at ok
  case h_2 => cases ok
  rename_i body
  obtain ⟨_,key,rest,-⟩ := bind_ok (congrArg Prod.fst body)
  obtain ⟨_,cert,rest,-⟩ := bind_ok rest
  obtain ⟨_,ca,crl,-⟩ := bind_ok rest
  rw [(loadCred_yields lib .key s () key).1] at cert ca crl
  rw [(loadCred_yields lib .cert _ () cert).1] at ca crl
  rw [(loadCred_yields lib .ca _ () ca).1] at crl
  cases c
  · exact loadCred_parsed lib .key s key f res
  · exact loadCred_parsed lib .cert _ cert f (by simpa using res)
  · exact loadCred_parsed lib .ca _ ca f (by simpa using res)
  · exact loadCred_parsed lib .crl _ crl f (by simpa using res)

theorem initCred_refuses (s : NsdMbedtls) (c : Cred) (f : String) (res : resolved lib s c = some f)
    (bad : lib.parse c f ≠ 0) :
    (mbedtlsInitCred lib s).1 ≠ .ok () ∧
      .logMsg .err logErr "nsd mbedtls: error parsing crypto config" ∈ (mbedtlsInitCred lib s).2.2 := by
  have failed : (mbedtlsInitCred lib s).1 ≠ .ok () := fun ok => bad (initCred_parsed lib s ok c f res)
  refine ⟨failed,?_⟩
  unfold mbedtlsInitCred at failed ⊢
  simp only [onError_apply] at failed ⊢
  split
  · simp_all
  · simp

theorem initSession_yields : Yields id (fun _ => [.drbgSeed lib.customString.2]) (mbedtlsInitSession lib) :=
  Yields.onError' (Yields.of_eq (Yields.bind (Yields.chk' _) fun _ => Yields.ext' _ _) rfl rfl) _

theorem getSockInto_yields (r : RsRetVal × Int) :
    Yields (fun s => {s with sock := r.2}) (fun _ => [.ptcp .getSock]) (getSockInto r) := fun s a ok => by
  unfold getSockInto at ok ⊢
  split
  · exact ⟨rfl,rfl⟩
  · rw [dif_neg ‹_›] at ok; cases ok

theorem handshakeChk_yields (n : Int) : Yields id (fun _ => []) (handshakeChk n) := fun s a ok => by
  unfold handshakeChk at ok ⊢
  split
  · simp [*] at ok
  · exact ⟨rfl,rfl⟩

def tlsHandshakeCalls (endpoint : Int) (hostname : NsdMbedtls → Option String) (s : NsdMbedtls) : List Call :=
  [.confDefaults endpoint,.confRng,.confAuthmode s.authMode,caChain s,.confVerify s.drvrVerifyDepth] ++
    (if s.bHaveKey && s.bHaveCert then [.confOwnCert s.srvcert s.pkey] else []) ++
    [.sslSetup,.setHostname (hostname s),.ptcp .getSock,.setBio lib.getSock.2,.handshake]

theorem tlsHandshake_yields (endpoint : Int) (hostname : NsdMbedtls → Option String) :
    Yields (fun s => {s with sock := lib.getSock.2}) (tlsHandshakeCalls lib endpoint hostname)
      (tlsHandshake lib endpoint hostname) := by
  apply Yields.of_eq
  · unfold tlsHandshake
    apply Yields.get_bind; intro p
    repeat' first
      | with_reducible exact Yields.call' _ | with_reducible exact Yields.ext' _ _
      | with_reducible exact Yields.pure' _ | with_reducible exact getSockInto_yields _
      | with_reducible exact handshakeChk_yields _
      | with_reducible apply Yields.get_bind | with_reducible apply Yields.bind
      | with_reducible apply Yields.ite' | intro _
  · funext s
    split <;> rfl
  · funext s
    unfold tlsHandshakeCalls
    split <;> rfl

theorem loadCred_checks (c : Cred) :
    Checks (fun s => (resolved lib s c).toList.map fun f => ofMbedtls (lib.parse c f)) (loadCred lib c) := by
  unfold loadCred
  refine Checks.get_bind (L := fun p _ => (resolved lib p c).toList.map fun f => ofMbedtls (lib.parse c f)) fun p => ?_
  split
  · next none => exact Checks.of_eq (Checks.pure' ()) fun _ => by simp [none]
  · next f e =>
    exact Checks.of_eq (Checks.bind (Checks.modify' _) (Yields.modify' _) fun _ =>
      Checks.bind (Checks.ext' _ _) (Yields.ext' _ _) fun _ => Checks.modify' _) fun _ => by simp [e]

def credChecks (s : NsdMbedtls) : List RsRetVal :=
  [Cred.key,.cert,.ca,.crl].filterMap fun c => (resolved lib s c).map fun f => ofMbedtls (lib.parse c f)

theorem initCred_checks : Checks (credChecks lib) (mbedtlsInitCred lib) := by
  refine Checks.onError' (Checks.of_eq (Checks.bind (loadCred_checks lib .key) (loadCred_yields lib .key) fun _ =>
    Checks.bind (loadCred_checks lib .cert) (loadCred_yields lib .cert) fun _ =>
    Checks.bind (loadCred_checks lib .ca) (loadCred_yields lib .ca) fun _ => loadCred_checks lib .crl) fun s => ?_) _
  simp only [resolved_loadCredState,credChecks,List.filterMap_cons,List.filterMap_nil]
  cases resolved lib s .key <;> cases resolved lib s .cert <;> cases resolved lib s .ca <;>
    cases resolved lib s .crl <;> rfl

theorem credChecks_ok (s : NsdMbedtls) :
    (∀ r ∈ credChecks lib s, r = .ok) ↔ ∀ c f, resolved lib s c = some f → lib.parse c f = 0 := by
  simp only [credChecks,List.mem_filterMap,Option.map_eq_some',forall_exists_index,and_imp]
  constructor
  · intro all c f res
    exact (ofMbedtls_eq_ok _).1 (all _ c (by cases c <;> simp) f res rfl)
  · rintro all _ c - f res rfl
    exact (ofMbedtls_eq_ok _).2 (all c f res)

theorem initSession_checks :
    Checks (fun _ => [lib.customString.1,ofMbedtls lib.drbgSeed]) (mbedtlsInitSession lib) :=
  Checks.onError' (Checks.of_eq (Checks.bind (Checks.chk' _) (Yields.chk' _) fun _ => Checks.ext' _ _) fun _ => rfl) _

theorem getSockInto_checks (r : RsRetVal × Int) : Checks (fun _ => [r.1]) (getSockInto r) := fun s => by
  unfold getSockInto
  split <;> simp_all [status,firstFailure]

def handshakeChecks (n : Int) : List RsRetVal :=
  if n ≠ 0 ∧ n ≠ mbedtlsErrSslWantRead ∧ n ≠ mbedtlsErrSslWantWrite then [.tlsHandshakeErr] else []

theorem handshakeChk_checks (n : Int) : Checks (fun _ => handshakeChecks n) (handshakeChk n) := by
  unfold handshakeChk handshakeChecks
  exact Checks.ite' (L := fun _ => [.tlsHandshakeErr])
    (Checks.of_eq (Checks.bind (Checks.call' _) (Yields.call' _) fun _ => Checks.abort' _) fun _ => rfl) (Checks.pure' ())

theorem handshakeChecks_ok (n : Int) :
    (∀ r ∈ handshakeChecks n, r = .ok) ↔ n = 0 ∨ n = mbedtlsErrSslWantRead ∨ n = mbedtlsErrSslWantWrite := by
  unfold handshakeChecks
  split <;> simp <;> omega

def tlsChecks (ownCert : Bool) : List RsRetVal :=
  [ofMbedtls lib.confDefaults] ++ (if ownCert then [ofMbedtls lib.confOwnCert] else []) ++
    [ofMbedtls lib.sslSetup,ofMbedtls lib.setHostname,lib.getSock.1] ++ handshakeChecks lib.handshake

theorem tlsHandshake_checks (endpoint : Int) (hostname : NsdMbedtls → Option String) :
    Checks (fun s => tlsChecks lib (s.bHaveKey && s.bHaveCert)) (tlsHandshake lib endpoint hostname) := by
  apply Checks.of_eq
  · unfold tlsHandshake
    apply Checks.get_bind; intro p
    repeat' first
      | with_reducible exact Checks.call' _ | with_reducible exact Checks.ext' _ _
      | with_reducible exact Checks.pure' _ | with_reducible exact getSockInto_checks _
      | with_reducible exact handshakeChk_checks _
      | with_reducible exact Yields.call' _ | with_reducible exact Yields.ext' _ _
      | with_reducible exact Yields.pure' _ | with_reducible exact getSockInto_yields _
      | with_reducible apply Checks.get_bind | with_reducible apply Checks.bind
      | with_reducible apply Checks.ite' | intro _
  · intro s
    simp only [tlsChecks,List.nil_append,List.append_nil,List.append_assoc,List.singleton_append]
    split <;> rfl

theorem tlsChecks_ok (ownCert : Bool) :
    (∀ r ∈ tlsChecks lib ownCert, r = .ok) ↔ lib.confDefaults = 0 ∧ (ownCert → lib.confOwnCert = 0) ∧
      lib.sslSetup = 0 ∧ lib.setHostname = 0 ∧ lib.getSock.1 = .ok ∧
      (lib.handshake = 0 ∨ lib.handshake = mbedtlsErrSslWantRead ∨ lib.handshake = mbedtlsErrSslWantWrite) := by
  simp only [tlsChecks,List.forall_mem_append,List.forall_mem_cons,handshakeChecks_ok,ofMbedtls_eq_ok]
  cases ownCert <;> simp [ofMbedtls_eq_ok,and_assoc]

-- The calls that build the TLS configuration: not the RNG seeding, the transport, the handshake or logs.
def Call.isTlsConf : Call → Bool
  | .parse .. | .confDefaults _ | .confRng | .confAuthmode _ | .confCaChain .. | .confVerify _
  | .confOwnCert .. | .sslSetup | .setHostname _ => true
  | _ => false

theorem ptcpAcceptInto_yields (r : RsRetVal × Nat) :
    Yields (fun s => {s with pTcp := some r.2}) (fun _ => [.ptcp .acceptConnReq]) (ptcpAcceptInto r) :=
  fun s a ok => by
  unfold ptcpAcceptInto at ok ⊢
  split
  · exact ⟨rfl,rfl⟩
  · rw [dif_neg ‹_›] at ok; cases ok

variable (pThis : NsdMbedtls)

theorem copyPermPeer_yields :
    Yields (fun d => {d with pPermPeer := pThis.pPermPeer.or d.pPermPeer}) (fun _ => []) (copyPermPeer lib pThis) :=
  fun d a ok => ⟨copyPermPeer_sets lib pThis d a ok,by unfold copyPermPeer; split <;> (try split) <;> rfl⟩

theorem copyFile_yields (c : Cred) :
    Yields (fun d => d.setFile ((pThis.file c).or (d.file c)) c) (fun _ => []) (copyFile lib pThis c) :=
  fun d a ok => ⟨copyFile_sets lib pThis c d a ok,by unfold copyFile; split <;> (try split) <;> rfl⟩

def copiedConfig (s : NsdMbedtls) : NsdMbedtls :=
  s.withConfig ⟨pThis.iMode,pThis.authMode,pThis.bChkName,pThis.pPermPeer.or s.pPermPeer,pThis.drvrVerifyDepth,
    pThis.pszCAFile.or s.pszCAFile,pThis.pszCRLFile.or s.pszCRLFile,pThis.pszKeyFile.or s.pszKeyFile,
    pThis.pszCertFile.or s.pszCertFile⟩

theorem acceptCopy_yields : Yields (copiedConfig pThis) (fun _ => []) (acceptCopy lib pThis) :=
  Yields.of_eq (Yields.bind (Yields.modify' _) fun _ => Yields.bind (copyPermPeer_yields lib pThis) fun _ =>
    Yields.bind (Yields.modify' _) fun _ => Yields.bind (copyFile_yields lib pThis .cert) fun _ =>
    Yields.bind (copyFile_yields lib pThis .key) fun _ => Yields.bind (copyFile_yields lib pThis .ca) fun _ =>
    Yields.bind (copyFile_yields lib pThis .crl) fun _ => Yields.modify' _) rfl rfl

theorem acceptBody_yields :
    Yields (fun s => if pThis.iMode = 0 then {s with pTcp := some lib.ptcpAcceptConnReq.2} else
        {loadCreds lib (copiedConfig pThis {s with pTcp := some lib.ptcpAcceptConnReq.2}) with
          sock := lib.getSock.2, bHaveSess := true})
      (fun s => .ptcp (.destruct s.pTcp) :: .ptcp .acceptConnReq :: if pThis.iMode = 0 then [] else
        .drbgSeed lib.customString.2 :: credParses lib (copiedConfig pThis {s with pTcp := some lib.ptcpAcceptConnReq.2}) ++
          tlsHandshakeCalls lib mbedtlsSslIsServer acceptPeerName
            (loadCreds lib (copiedConfig pThis {s with pTcp := some lib.ptcpAcceptConnReq.2})))
      (acceptBody lib pThis) := by
  refine Yields.of_eq (Yields.get_bind fun p => Yields.bind (Yields.modify' _) fun _ =>
    Yields.bind (Yields.ext' (.ptcp (.destruct p.pTcp)) _) fun _ =>
    Yields.bind (ptcpAcceptInto_yields _) fun _ => Yields.ite' (Yields.pure' ()) (Yields.bind (acceptCopy_yields lib pThis)
      fun _ => Yields.bind (initSession_yields lib) fun _ => Yields.bind (initCred_yields lib) fun _ =>
      Yields.bind (tlsHandshake_yields lib _ _) fun _ => Yields.modify' _)) (funext fun s => ?_) (funext fun s => ?_)
  all_goals simp only [Function.comp_apply,id,List.append_nil]; split <;> rfl

-- One CHKmalloc per copied setting: the peer, then the certificate, key, CA and CRL paths.
def copyChecks : List RsRetVal :=
  (if pThis.pPermPeer.isSome && !lib.strdupPeerOk then .outOfMemory else .ok) ::
    [Cred.cert,.key,.ca,.crl].map fun c => if (pThis.file c).isSome && !lib.strdupFileOk c then .outOfMemory else .ok

theorem copyPermPeer_checks :
    Checks (fun _ => [if pThis.pPermPeer.isSome && !lib.strdupPeerOk then .outOfMemory else .ok])
      (copyPermPeer lib pThis) := fun d => by
  unfold copyPermPeer
  split <;> (try split) <;> simp_all [status,firstFailure]

theorem copyFile_checks (c : Cred) :
    Checks (fun _ => [if (pThis.file c).isSome && !lib.strdupFileOk c then .outOfMemory else .ok])
      (copyFile lib pThis c) := fun d => by
  unfold copyFile
  split <;> (try split) <;> simp_all [status,firstFailure]

theorem acceptCopy_checks : Checks (fun _ => copyChecks lib pThis) (acceptCopy lib pThis) :=
  Checks.of_eq (Checks.bind (Checks.modify' _) (Yields.modify' _) fun _ =>
    Checks.bind (copyPermPeer_checks lib pThis) (copyPermPeer_yields lib pThis) fun _ =>
    Checks.bind (Checks.modify' _) (Yields.modify' _) fun _ =>
    Checks.bind (copyFile_checks lib pThis .cert) (copyFile_yields lib pThis .cert) fun _ =>
    Checks.bind (copyFile_checks lib pThis .key) (copyFile_yields lib pThis .key) fun _ =>
    Checks.bind (copyFile_checks lib pThis .ca) (copyFile_yields lib pThis .ca) fun _ =>
    Checks.bind (copyFile_checks lib pThis .crl) (copyFile_yields lib pThis .crl) fun _ => Checks.modify' _) fun _ => rfl

theorem copyChecks_ok :
    (∀ r ∈ copyChecks lib pThis, r = .ok) ↔
      (pThis.pPermPeer.isSome → lib.strdupPeerOk = true) ∧ ∀ c, (pThis.file c).isSome → lib.strdupFileOk c = true := by
  have strdup : ∀ a b : Bool, (if (a && !b) = true then RsRetVal.outOfMemory else .ok) = .ok ↔ (a = true → b = true) := by
    decide
  simp only [copyChecks,List.forall_mem_cons,List.forall_mem_map,strdup]
  constructor
  · rintro ⟨peer,cert,key,ca,crl,-⟩
    exact ⟨peer,fun c => by cases c <;> assumption⟩
  · rintro ⟨peer,files⟩
    exact ⟨peer,files .cert,files .key,files .ca,files .crl,by simp⟩

theorem acceptBody_checks :
    Checks (fun s => lib.ptcpDestruct :: lib.ptcpAcceptConnReq.1 :: if pThis.iMode = 0 then [] else
        copyChecks lib pThis ++ [lib.customString.1,ofMbedtls lib.drbgSeed] ++
          credChecks lib (copiedConfig pThis {s with pTcp := some lib.ptcpAcceptConnReq.2}) ++
          tlsChecks lib ((loadCreds lib (copiedConfig pThis {s with pTcp := some lib.ptcpAcceptConnReq.2})).bHaveKey &&
            (loadCreds lib (copiedConfig pThis {s with pTcp := some lib.ptcpAcceptConnReq.2})).bHaveCert))
      (acceptBody lib pThis) := by
  have accept : Checks (fun _ => [lib.ptcpAcceptConnReq.1]) (ptcpAcceptInto lib.ptcpAcceptConnReq) := fun d => by
    unfold ptcpAcceptInto
    split <;> simp_all [status,firstFailure]
  refine Checks.of_eq (Checks.get_bind fun p => Checks.bind (Checks.modify' _) (Yields.modify' _) fun _ =>
    Checks.bind (Checks.ext' (.ptcp (.destruct p.pTcp)) _) (Yields.ext' _ _) fun _ =>
    Checks.bind accept (ptcpAcceptInto_yields _) fun _ => Checks.ite' (Checks.pure' ())
      (Checks.bind (acceptCopy_checks lib pThis) (acceptCopy_yields lib pThis) fun _ =>
      Checks.bind (initSession_checks lib) (initSession_yields lib) fun _ =>
      Checks.bind (initCred_checks lib) (initCred_yields lib) fun _ =>
      Checks.bind (tlsHandshake_checks lib _ _) (tlsHandshake_yields lib _ _) fun _ => Checks.modify' _)) fun s => ?_
  by_cases plain : pThis.iMode = 0 <;> simp [plain]

end Specs

theorem connectBody_yields (lib : Lib) (family : Int) (port host : String) (device : Option String) :
    Yields (fun s => if s.iMode = 0 then loadCreds lib s else
        {loadCreds lib s with sock := lib.getSock.2, bHaveSess := true})
      (fun s => .drbgSeed lib.customString.2 :: credParses lib s ++ .ptcp (.connect family port host device) ::
        if s.iMode = 0 then [] else tlsHandshakeCalls lib mbedtlsSslIsClient (connectPeerName host) (loadCreds lib s))
      (connectBody lib family port host device) := by
  have mode : ∀ s, (loadCreds lib s).iMode = s.iMode := fun s => congrArg Config.iMode (config_loadCreds lib s)
  refine Yields.of_eq (Yields.bind (initSession_yields lib) fun _ => Yields.bind (initCred_yields lib) fun _ =>
    Yields.bind (Yields.ext' _ _) fun _ => Yields.get_bind fun p =>
    Yields.ite' (p := p.iMode = 0) (Yields.pure' ()) (Yields.bind (tlsHandshake_yields lib _ _) fun _ => Yields.modify' _))
    (funext fun s => ?_) (funext fun s => ?_)
  all_goals simp only [Function.comp_apply,id,List.append_nil]; rw [← mode s]; split <;> rfl

theorem connectBody_checks (lib : Lib) (family : Int) (port host : String) (device : Option String) :
    Checks (fun s => [lib.customString.1,ofMbedtls lib.drbgSeed] ++ credChecks lib s ++ lib.ptcpConnect ::
        if s.iMode = 0 then [] else tlsChecks lib ((loadCreds lib s).bHaveKey && (loadCreds lib s).bHaveCert))
      (connectBody lib family port host device) := by
  have mode : ∀ s, (loadCreds lib s).iMode = s.iMode := fun s => congrArg Config.iMode (config_loadCreds lib s)
  refine Checks.of_eq (Checks.bind (initSession_checks lib) (initSession_yields lib) fun _ =>
    Checks.bind (initCred_checks lib) (initCred_yields lib) fun _ =>
    Checks.bind (Checks.ext' _ _) (Yields.ext' _ _) fun _ => Checks.get_bind fun p =>
    Checks.ite' (p := p.iMode = 0) (Checks.pure' ()) (Checks.bind (tlsHandshake_checks lib _ _)
      (tlsHandshake_yields lib _ _) fun _ => Checks.modify' _)) fun s => ?_
  simp only [id,mode,List.append_nil,List.append_assoc,List.cons_append,List.singleton_append,List.nil_append]

end RsyslogMbedtls

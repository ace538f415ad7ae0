import RsyslogMbedtls.Lifecycle

namespace RsyslogMbedtls

-- The callbacks the driver hands to Mbed TLS. The rest of the model takes the results of the Mbed TLS
-- calls as inputs; the theorems below join the two under a named hypothesis on what Mbed TLS passes up.

def mbedtlsErrNetRecvFailed : Int := -0x004C
def mbedtlsErrNetSendFailed : Int := -0x004E
def mbedtlsErrNetConnReset : Int := -0x0050
def mbedtlsErrX509FatalError : Int := -0x3000

-- Where EAGAIN and EWOULDBLOCK are one value the source compiles its second case out; same branch.
inductive Errno where
  | eagain
  | ewouldblock
  | eintr
  | epipe
  | econnreset
  | other
  deriving DecidableEq, Repr

def Errno.transient : Errno → Bool
  | .eagain | .ewouldblock | .eintr => true
  | _ => false

def mbedtlsNetRecv (slen : Int) (oserr : Errno) : Int :=
  if slen < 0 then
    match oserr with
    | .eagain | .ewouldblock | .eintr => mbedtlsErrSslWantRead
    | .epipe | .econnreset => mbedtlsErrNetConnReset
    | .other => mbedtlsErrNetRecvFailed
  else slen

-- `sent` is nsd_ptcp.Send's status and the length it left; only RS_RET_IO_ERROR becomes an Mbed TLS error.
def mbedtlsNetSend (sent : RsRetVal × Int) : Int :=
  if sent.1 = .ioError then mbedtlsErrNetSendFailed else sent.2

-- The certificate and its flags are not read: the callback only bounds the depth in the chain.
def verify (pThis : NsdMbedtls) (depth : Int) : Int :=
  if pThis.drvrVerifyDepth ≠ 0 ∧ depth > pThis.drvrVerifyDepth then mbedtlsErrX509FatalError else 0

theorem mbedtlsNetRecv_failed (slen : Int) (oserr : Errno) (failed : slen < 0) :
    mbedtlsNetRecv slen oserr =
      if oserr.transient then mbedtlsErrSslWantRead
      else if oserr = .other then mbedtlsErrNetRecvFailed else mbedtlsErrNetConnReset := by
  cases oserr <;> simp [mbedtlsNetRecv,Errno.transient,failed]

theorem verify_ok_iff (pThis : NsdMbedtls) (depth : Int) :
    verify pThis depth = 0 ↔ pThis.drvrVerifyDepth = 0 ∨ depth ≤ pThis.drvrVerifyDepth := by
  by_cases deeper : pThis.drvrVerifyDepth ≠ 0 ∧ depth > pThis.drvrVerifyDepth
  · simp only [verify,if_pos deeper,mbedtlsErrX509FatalError]; omega
  · simp only [verify,if_neg deeper,true_iff]; omega

theorem rcv_recv_failure (io : RcvIo) (d : NsdMbedtls) (lenBuf slen : Int) (oserr : Errno)
    (live : d.bAbortConn = false) (tls : d.iMode ≠ 0) (failed : slen < 0)
    (passed : io.sslRead = mbedtlsNetRecv slen oserr) :
    rcv io (d,lenBuf) =
      if oserr.transient then (.retry,({d with bytesAvail := io.bytesAvail},lenBuf),[.sslRead lenBuf])
      else (.rcvErr,({d with bytesAvail := io.bytesAvail},0),[.sslRead lenBuf,.logMbedtlsError .rcvErr io.sslRead]) := by
  rw [rcv_tls_eq io d lenBuf live tls,passed,mbedtlsNetRecv_failed slen oserr failed]
  cases oserr <;> simp [Errno.transient,mbedtlsErrSslWantRead,mbedtlsErrSslWantWrite,mbedtlsErrSslPeerCloseNotify,
    mbedtlsErrNetRecvFailed,mbedtlsErrNetConnReset]

def tlsReader : NsdMbedtls := (setMode 1 (nsdMbedtlsConstruct (some 0))).2.1

theorem reset_tls_read_fails :
    rcv ⟨(.ok,0),mbedtlsNetRecv (-1) .econnreset,0⟩ (tlsReader,16) =
      (.rcvErr,(tlsReader,0),[.sslRead 16,.logMbedtlsError .rcvErr mbedtlsErrNetConnReset]) :=
  (rcv_recv_failure ⟨(.ok,0),mbedtlsNetRecv (-1) .econnreset,0⟩ tlsReader 16 (-1) .econnreset rfl (by decide)
    (by decide) rfl).trans rfl

theorem handshakeChecks_recv (slen : Int) (oserr : Errno) (failed : slen < 0) :
    handshakeChecks (mbedtlsNetRecv slen oserr) = if oserr.transient then [] else [.tlsHandshakeErr] := by
  rw [mbedtlsNetRecv_failed slen oserr failed]
  cases oserr <;> simp [handshakeChecks,Errno.transient,mbedtlsErrSslWantRead,mbedtlsErrSslWantWrite,
    mbedtlsErrNetRecvFailed,mbedtlsErrNetConnReset]

theorem connect_recv_failure (lib : Lib) (family : Int) (port host : String) (device : Option String)
    (d : NsdMbedtls) (slen : Int) (oserr : Errno) (tls : d.iMode ≠ 0)
    (seeded : lib.customString.1 = .ok ∧ lib.drbgSeed = 0) (parsed : ∀ c f, resolved lib d c = some f → lib.parse c f = 0)
    (configured : lib.ptcpConnect = .ok ∧ lib.confDefaults = 0 ∧ lib.confOwnCert = 0 ∧ lib.sslSetup = 0 ∧
      lib.setHostname = 0 ∧ lib.getSock.1 = .ok)
    (failed : slen < 0) (passed : lib.handshake = mbedtlsNetRecv slen oserr) :
    (connect lib family port host device d).1 = (if oserr.transient then .ok else .tlsHandshakeErr) ∧
      (oserr.transient → (connect lib family port host device d).2.1.bHaveSess = true) := by
  have status : (connect lib family port host device d).1 = if oserr.transient then .ok else .tlsHandshakeErr := by
    have ready : firstFailure ([lib.customString.1,ofMbedtls lib.drbgSeed] ++ credChecks lib d) = .ok :=
      (firstFailure_eq_ok _).2 (List.forall_mem_append.2 ⟨by simp [seeded,ofMbedtls_eq_ok],(credChecks_ok lib d).2 parsed⟩)
    obtain ⟨connected,defaults,own,setup,hostname,sock⟩ := configured
    rw [connect,Body.Checks.finish_status (connectBody_checks lib family port host device) d,firstFailure_append,ready,
      if_pos rfl,if_neg tls,tlsChecks,passed,handshakeChecks_recv slen oserr failed]
    cases oserr.transient <;> simp [firstFailure,connected,defaults,own,setup,hostname,sock,ofMbedtls] <;> split <;> rfl
  refine ⟨status,fun transient => ?_⟩
  rw [if_pos transient] at status
  rw [connect,(connectBody_yields lib family port host device).finish_ok d status]
  simp [tls]

def interruptedLib : Lib := {okLib with handshake := mbedtlsNetRecv (-1) .eintr}

theorem interrupted_handshake_connects :
    (connect interruptedLib 2 "514" "relay" none tlsReader).1 = .ok ∧
      (connect interruptedLib 2 "514" "relay" none tlsReader).2.1.bHaveSess = true :=
  let run := connect_recv_failure interruptedLib 2 "514" "relay" none tlsReader (-1) .eintr (by decide) ⟨rfl,rfl⟩
    (fun _ _ _ => rfl) ⟨rfl,rfl,rfl,rfl,rfl,rfl⟩ (by decide) (by unfold interruptedLib; rfl)
  ⟨run.1,run.2 rfl⟩

theorem accepted_verify (lib : Lib) (pThis pNew : NsdMbedtls) (r : RsRetVal) (calls : List Call)
    (accepted : acceptConnReq lib pThis = some (r,some pNew,calls)) (tls : pThis.iMode ≠ 0) (depth : Int) :
    verify pNew depth = verify pThis depth ∧
      (verify pNew depth = 0 ↔ pThis.drvrVerifyDepth = 0 ∨ depth ≤ pThis.drvrVerifyDepth) := by
  have same : verify pNew = verify pThis := by
    have depths := congrArg Config.drvrVerifyDepth ((accepted_driver lib pThis pNew r calls accepted).2.2 tls).1
    funext depth
    simp only [verify,NsdMbedtls.config] at depths ⊢
    rw [depths]
  rw [same]
  exact ⟨rfl,verify_ok_iff pThis depth⟩

def depthListener : NsdMbedtls := (setTlsVerifyDepth 2 (setMode 1 (nsdMbedtlsConstruct (some 0))).2.1).2.1

theorem depth_listener_accepts_bounded_chains :
    ∃ pNew calls, acceptConnReq okLib depthListener = some (.ok,some pNew,calls) ∧
      verify pNew 3 = verify depthListener 3 ∧
      (verify pNew 3 = 0 ↔ depthListener.drvrVerifyDepth = 0 ∨ 3 ≤ depthListener.drvrVerifyDepth) :=
  ⟨_,_,rfl,accepted_verify okLib depthListener _ .ok _ rfl (by decide) 3⟩

end RsyslogMbedtls

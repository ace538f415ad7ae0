import RsyslogMbedtls.Basic

namespace RsyslogMbedtls

-- What nsd_ptcp and Mbed TLS answer to one Rcv: the plain status with what it leaves in
-- *pLenBuf, the result of mbedtls_ssl_read, and the bytes the session still buffers after it.
structure RcvIo where
  ptcpRcv : RsRetVal × Int
  sslRead : Int
  bytesAvail : Nat

def rcvTls (io : RcvIo) (lenBuf : Int) : Body (NsdMbedtls × Int) Unit := do
  Body.call (.sslRead lenBuf)
  Body.modify fun (d,l) => ({d with bytesAvail := io.bytesAvail},l)
  let n := io.sslRead
  if n = mbedtlsErrSslWantRead ∨ n = mbedtlsErrSslWantWrite then Body.abort ⟨.retry,nofun⟩
  else if n = mbedtlsErrSslPeerCloseNotify then Body.abort ⟨.closed,nofun⟩
  else if n < 0 then do
    Body.call (.logMbedtlsError .rcvErr n)
    Body.abort ⟨.rcvErr,nofun⟩
  else if n = 0 then Body.abort ⟨.eof,nofun⟩
  else Body.modify fun (d,_) => (d,n)

-- The state is the driver and *pLenBuf, which holds the buffer size on entry.
def rcvBody (io : RcvIo) : Body (NsdMbedtls × Int) Unit := do
  let (pThis,lenBuf) ← Body.get
  if pThis.bAbortConn then Body.abort ⟨.connectionAbortreq,nofun⟩
  else if pThis.iMode = 0 then do
    Body.modify fun (d,_) => (d,io.ptcpRcv.2)
    Body.ext (.ptcp (.rcv lenBuf)) io.ptcpRcv.1
  else rcvTls io lenBuf

-- After finalize_it every status but RS_RET_OK and RS_RET_RETRY zeroes the length.
def rcv (io : RcvIo) : Proc (NsdMbedtls × Int) := fun s =>
  match Body.finish (rcvBody io) s with
  | (iRet,(d,len),calls) => (iRet,(d,if iRet ≠ .ok ∧ iRet ≠ .retry then 0 else len),calls)

theorem rcv_aborted (io : RcvIo) (pThis : NsdMbedtls) (maxLen : Int) (aborted : pThis.bAbortConn = true) :
    rcv io (pThis,maxLen) = (.connectionAbortreq,(pThis,0),[]) := by
  simp [rcv,rcvBody,Body.finish,aborted]

theorem finish_rcvBody_tls (io : RcvIo) (pThis : NsdMbedtls) (maxLen : Int) (live : pThis.bAbortConn = false)
    (tls : pThis.iMode ≠ 0) :
    Body.finish (rcvBody io) (pThis,maxLen) =
      if io.sslRead = mbedtlsErrSslWantRead ∨ io.sslRead = mbedtlsErrSslWantWrite then
        (.retry,({pThis with bytesAvail := io.bytesAvail},maxLen),[.sslRead maxLen])
      else if io.sslRead = mbedtlsErrSslPeerCloseNotify then
        (.closed,({pThis with bytesAvail := io.bytesAvail},maxLen),[.sslRead maxLen])
      else if io.sslRead < 0 then
        (.rcvErr,({pThis with bytesAvail := io.bytesAvail},maxLen),[.sslRead maxLen,.logMbedtlsError .rcvErr io.sslRead])
      else if io.sslRead = 0 then (.eof,({pThis with bytesAvail := io.bytesAvail},maxLen),[.sslRead maxLen])
      else (.ok,({pThis with bytesAvail := io.bytesAvail},io.sslRead),[.sslRead maxLen]) := by
  cases pThis
  subst live
  simp only [rcvBody,rcvTls,Body.finish,Body.bind_apply,Body.get_apply,tls,Bool.false_eq_true,↓reduceIte]
  split_ifs <;> rfl

theorem rcv_tls_eq (io : RcvIo) (pThis : NsdMbedtls) (maxLen : Int) (live : pThis.bAbortConn = false)
    (tls : pThis.iMode ≠ 0) :
    rcv io (pThis,maxLen) =
      if io.sslRead = mbedtlsErrSslWantRead ∨ io.sslRead = mbedtlsErrSslWantWrite then
        (.retry,({pThis with bytesAvail := io.bytesAvail},maxLen),[.sslRead maxLen])
      else if io.sslRead = mbedtlsErrSslPeerCloseNotify then
        (.closed,({pThis with bytesAvail := io.bytesAvail},0),[.sslRead maxLen])
      else if io.sslRead < 0 then
        (.rcvErr,({pThis with bytesAvail := io.bytesAvail},0),[.sslRead maxLen,.logMbedtlsError .rcvErr io.sslRead])
      else if io.sslRead = 0 then (.eof,({pThis with bytesAvail := io.bytesAvail},0),[.sslRead maxLen])
      else (.ok,({pThis with bytesAvail := io.bytesAvail},io.sslRead),[.sslRead maxLen]) := by
  unfold rcv
  rw [finish_rcvBody_tls io pThis maxLen live tls]
  split_ifs <;> rfl

theorem rcv_tls_status (io : RcvIo) (pThis : NsdMbedtls) (maxLen : Int) (live : pThis.bAbortConn = false)
    (tls : pThis.iMode ≠ 0) :
    (rcv io (pThis,maxLen)).1 =
      if io.sslRead = mbedtlsErrSslWantRead ∨ io.sslRead = mbedtlsErrSslWantWrite then .retry
      else if io.sslRead = mbedtlsErrSslPeerCloseNotify then .closed
      else if io.sslRead < 0 then .rcvErr
      else if io.sslRead = 0 then .eof
      else .ok := by
  rw [rcv_tls_eq io pThis maxLen live tls]
  split_ifs <;> rfl

theorem rcv_tls_read (io : RcvIo) (pThis : NsdMbedtls) (maxLen : Int) (live : pThis.bAbortConn = false)
    (tls : pThis.iMode ≠ 0) (read : 0 < io.sslRead) : (rcv io (pThis,maxLen)).2.1.2 = io.sslRead := by
  have ne : io.sslRead ≠ mbedtlsErrSslWantRead ∧ io.sslRead ≠ mbedtlsErrSslWantWrite ∧
      io.sslRead ≠ mbedtlsErrSslPeerCloseNotify := by
    simp only [mbedtlsErrSslWantRead,mbedtlsErrSslWantWrite,mbedtlsErrSslPeerCloseNotify]; omega
  rw [rcv_tls_eq io pThis maxLen live tls,if_neg (not_or.2 ⟨ne.1,ne.2.1⟩),if_neg ne.2.2,if_neg (by omega),
    if_neg (by omega)]

theorem rcv_error_len (io : RcvIo) (s : NsdMbedtls × Int) (failed : (rcv io s).1 ≠ .ok)
    (final : (rcv io s).1 ≠ .retry) : (rcv io s).2.1.2 = 0 := by
  simp only [rcv] at failed final ⊢
  exact if_pos ⟨failed,final⟩

theorem rcv_outcome (io : RcvIo) (pThis : NsdMbedtls) (maxLen : Int) :
    (pThis.bAbortConn = true →
      (rcv io (pThis,maxLen)).1 = .connectionAbortreq ∧ (rcv io (pThis,maxLen)).2.2 = []) ∧
    (pThis.bAbortConn = false → pThis.iMode = 1 →
      ((rcv io (pThis,maxLen)).1 = .retry ↔
        io.sslRead = mbedtlsErrSslWantRead ∨ io.sslRead = mbedtlsErrSslWantWrite) ∧
      ((rcv io (pThis,maxLen)).1 = .closed ↔ io.sslRead = mbedtlsErrSslPeerCloseNotify) ∧
      (io.sslRead = 0 → (rcv io (pThis,maxLen)).1 = .eof) ∧
      (io.sslRead < 0 → io.sslRead ≠ mbedtlsErrSslWantRead → io.sslRead ≠ mbedtlsErrSslWantWrite →
        io.sslRead ≠ mbedtlsErrSslPeerCloseNotify → (rcv io (pThis,maxLen)).1 = .rcvErr) ∧
      (0 < io.sslRead → (rcv io (pThis,maxLen)).1 = .ok ∧ (rcv io (pThis,maxLen)).2.1.2 = io.sslRead)) ∧
    ((rcv io (pThis,maxLen)).1 ≠ .ok → (rcv io (pThis,maxLen)).1 ≠ .retry → (rcv io (pThis,maxLen)).2.1.2 = 0) := by
  refine ⟨fun aborted => by simp [rcv_aborted io pThis maxLen aborted],fun live tls => ?_,
    rcv_error_len io _⟩
  have tls' : pThis.iMode ≠ 0 := by omega
  rw [rcv_tls_status io pThis maxLen live tls']
  refine ⟨?_,?_,?_,?_,fun read => ⟨?_,rcv_tls_read io pThis maxLen live tls' read⟩⟩ <;>
    simp only [mbedtlsErrSslWantRead,mbedtlsErrSslWantWrite,mbedtlsErrSslPeerCloseNotify] <;>
    split_ifs <;> (try simp) <;> omega

theorem rcv_tls_reads (io : RcvIo) (pThis : NsdMbedtls) (maxLen : Int) (live : pThis.bAbortConn = false)
    (tls : pThis.iMode ≠ 0) : (rcv io (pThis,maxLen)).2.2.head? = some (.sslRead maxLen) := by
  rw [rcv_tls_eq io pThis maxLen live tls]
  split_ifs <;> rfl

theorem rcv_tls_calls (io : RcvIo) (pThis : NsdMbedtls) (maxLen : Int) (live : pThis.bAbortConn = false)
    (tls : pThis.iMode ≠ 0) : ∀ c ∈ (rcv io (pThis,maxLen)).2.2, c = .sslRead maxLen ∨ ∃ n, c = .logMbedtlsError .rcvErr n := by
  rw [rcv_tls_eq io pThis maxLen live tls]
  split_ifs <;> simp

theorem rcv_driver_eq (io : RcvIo) (s : NsdMbedtls × Int) : (rcv io s).2.1.1 = (rcvBody io s).2.1.1 := by
  simp only [rcv,Body.finish_apply]
  rcases rcvBody io s with ⟨_ | _,⟨d,l⟩,calls⟩ <;> rfl

theorem rcv_driver (io : RcvIo) (pThis : NsdMbedtls) (lenBuf : Int) :
    ∃ n, (rcv io (pThis,lenBuf)).2.1.1 = {pThis with bytesAvail := n} := by
  have kept : Body.Keeps (fun s : NsdMbedtls × Int => {s.1 with bytesAvail := 0}) (rcvBody io) := by
    unfold rcvBody rcvTls
    refine Body.Keeps.bind Body.Keeps.get' fun (d,l) => ?_
    repeat' first
      | exact Body.Keeps.abort' _ | exact Body.Keeps.call' _ | exact Body.Keeps.ext' _ _
      | exact Body.Keeps.modify' fun _ => rfl | apply Body.Keeps.bind | apply Body.Keeps.ite' | intro _
  have := kept (pThis,lenBuf)
  simp only [] at this
  rw [rcv_driver_eq]
  generalize (rcvBody io (pThis,lenBuf)).2.1.1 = d at this ⊢
  exact ⟨d.bytesAvail,congrArg (fun x => {x with bytesAvail := d.bytesAvail}) this⟩

structure SendIo where
  ptcpSend : RsRetVal × Int
  sslWrite : List Int

-- Send's write loop: it retries while would-block; `none` when the answers run out with it still going.
def sslWriteLoop (len : Int) : List Int → Option (Except Int Int × List Call)
  | [] => none
  | iSent :: rest =>
    if iSent ≤ 0 then
      if iSent ≠ mbedtlsErrSslWantRead ∧ iSent ≠ mbedtlsErrSslWantWrite then
        some (.error iSent,[.sslWrite len,.logMbedtlsError .noErrcode iSent])
      else (sslWriteLoop len rest).map fun r => (r.1,.sslWrite len :: r.2)
    else some (.ok iSent,[.sslWrite len])

theorem sslWriteLoop_calls (len : Int) (answers : List Int) (r : Except Int Int) (calls : List Call)
    (wrote : sslWriteLoop len answers = some (r,calls)) :
    calls.head? = some (.sslWrite len) ∧ ∀ c ∈ calls, c = .sslWrite len ∨ ∃ n, c = .logMbedtlsError .noErrcode n := by
  induction answers generalizing r calls with
  | nil => cases wrote
  | cons iSent rest ih =>
    simp only [sslWriteLoop] at wrote
    split_ifs at wrote
    · cases wrote; simp
    · cases h : sslWriteLoop len rest with
      | none => simp [h] at wrote
      | some res =>
        simp only [h,Option.map_some',Option.some.injEq] at wrote
        cases wrote
        simpa using (ih res.1 res.2 h).2
    · cases wrote; simp

-- ABORT_FINALIZE(iSent) hands the Mbed TLS code back as the status.
def send (io : SendIo) : NsdMbedtls × Int → Option (RsRetVal × (NsdMbedtls × Int) × List Call)
  | (pThis,lenBuf) =>
    if pThis.bAbortConn then some (.connectionAbortreq,(pThis,lenBuf),[])
    else if pThis.iMode = 0 then some (io.ptcpSend.1,(pThis,io.ptcpSend.2),[.ptcp (.send lenBuf)])
    else (sslWriteLoop lenBuf io.sslWrite).map fun
      | (.error n,l) => (ofMbedtls n,(pThis,lenBuf),l)
      | (.ok n,l) => (.ok,(pThis,n),l)

theorem send_driver (io : SendIo) (pThis : NsdMbedtls) (lenBuf : Int)
    (res : RsRetVal × (NsdMbedtls × Int) × List Call) (sent : send io (pThis,lenBuf) = some res) : res.2.1.1 = pThis := by
  simp only [send] at sent
  split_ifs at sent
  · cases sent; rfl
  · cases sent; rfl
  · obtain ⟨⟨_ | _,l⟩,-,rfl⟩ := Option.map_eq_some'.1 sent <;> rfl

theorem sslWriteLoop_eq (len : Int) (answers : List Int) :
    sslWriteLoop len answers =
      (answers.findIdx? fun n => !decide (n = mbedtlsErrSslWantRead ∨ n = mbedtlsErrSslWantWrite)).map fun i =>
        if 0 < answers.getD i 0 then (.ok (answers.getD i 0),List.replicate (i+1) (.sslWrite len))
        else (.error (answers.getD i 0),
          List.replicate (i+1) (.sslWrite len) ++ [.logMbedtlsError .noErrcode (answers.getD i 0)]) := by
  induction answers with
  | nil => rfl
  | cons n rest ih =>
    rw [sslWriteLoop,List.findIdx?_cons,List.findIdx?_succ]
    by_cases blocked : n = mbedtlsErrSslWantRead ∨ n = mbedtlsErrSslWantWrite
    · have neg : n ≤ 0 := by rcases blocked with rfl | rfl <;> decide
      rw [if_pos neg,if_neg (by tauto),if_neg (by simp [blocked]),ih,Option.map_map,Option.map_map]
      congr 1
      funext i
      simp only [Function.comp_apply,List.getD_cons_succ]
      split <;> rfl
    · have stop : (!decide (n = mbedtlsErrSslWantRead ∨ n = mbedtlsErrSslWantWrite)) = true := by simpa using blocked
      rw [if_pos stop]
      simp only [Option.map_some',List.getD_cons_zero]
      by_cases pos : 0 < n
      · rw [if_neg (show ¬n ≤ 0 by omega),if_pos pos]
        rfl
      · rw [if_pos (show n ≤ 0 by omega),if_pos (show n ≠ mbedtlsErrSslWantRead ∧ n ≠ mbedtlsErrSslWantWrite by tauto),
          if_neg pos]
        rfl

theorem send_tls_eq (io : SendIo) (pThis : NsdMbedtls) (lenBuf : Int) (live : pThis.bAbortConn = false)
    (tls : pThis.iMode ≠ 0) :
    send io (pThis,lenBuf) =
      (io.sslWrite.findIdx? fun n => !decide (n = mbedtlsErrSslWantRead ∨ n = mbedtlsErrSslWantWrite)).map fun i =>
        if 0 < io.sslWrite.getD i 0 then (.ok,(pThis,io.sslWrite.getD i 0),List.replicate (i+1) (.sslWrite lenBuf))
        else (ofMbedtls (io.sslWrite.getD i 0),(pThis,lenBuf),
          List.replicate (i+1) (.sslWrite lenBuf) ++ [.logMbedtlsError .noErrcode (io.sslWrite.getD i 0)]) := by
  simp only [send,live,tls,Bool.false_eq_true,↓reduceIte,sslWriteLoop_eq,Option.map_map]
  congr 1
  funext i
  by_cases pos : 0 < io.sslWrite.getD i 0 <;> simp only [Function.comp_apply,pos,↓reduceIte]

theorem tls_send_retries_until_written :
    send ⟨(.ok,0),[mbedtlsErrSslWantWrite,mbedtlsErrSslWantRead,5]⟩ ({nsdMbedtlsConstruct (some 0) with iMode := 1},16) =
      some (.ok,({nsdMbedtlsConstruct (some 0) with iMode := 1},5),[.sslWrite 16,.sslWrite 16,.sslWrite 16]) :=
  (send_tls_eq _ _ 16 rfl (by decide)).trans rfl

-- Abort forwards to nsd_ptcp in plain TCP mode only; in TLS mode it does nothing at all.
def abort : Proc NsdMbedtls := fun pThis =>
  if pThis.iMode = 0 then (.ok,pThis,[.ptcp .abort]) else (.ok,pThis,[])

-- The entry points that only hand the call to nsd_ptcp; `r` is the status they return.
def ptcpPassThrough (c : PtcpCall) (r : RsRetVal) : Proc NsdMbedtls := fun pThis => (r,pThis,[.ptcp c])

def setSock (sock : Int) : Proc NsdMbedtls := ptcpPassThrough (.setSock sock) .ok
def setKeepAliveIntvl (keepAliveIntvl : Int) : Proc NsdMbedtls :=
  ptcpPassThrough (.setKeepAliveIntvl keepAliveIntvl) .ok
def setKeepAliveProbes (keepAliveProbes : Int) : Proc NsdMbedtls :=
  ptcpPassThrough (.setKeepAliveProbes keepAliveProbes) .ok
def setKeepAliveTime (keepAliveTime : Int) : Proc NsdMbedtls := ptcpPassThrough (.setKeepAliveTime keepAliveTime) .ok
def enableKeepAlive (r : RsRetVal) : Proc NsdMbedtls := ptcpPassThrough .enableKeepAlive r
def checkConnection (r : RsRetVal) : Proc NsdMbedtls := ptcpPassThrough .checkConnection r
def getSock (r : RsRetVal) : Proc NsdMbedtls := ptcpPassThrough .getSock r
def getRemoteHName (r : RsRetVal) : Proc NsdMbedtls := ptcpPassThrough .getRemoteHName r
def getRemAddr (r : RsRetVal) : Proc NsdMbedtls := ptcpPassThrough .getRemAddr r
def getRemoteIP (r : RsRetVal) : Proc NsdMbedtls := ptcpPassThrough .getRemoteIP r

end RsyslogMbedtls

import RsyslogMbedtls.Setters
import RsyslogMbedtls.Bootstrap
import RsyslogMbedtls.Io

namespace RsyslogMbedtls

-- One call of the driver interface on a driver, with what the outside world answers to it.
inductive Op where
  | setter (s : Setter)
  | connect (lib : Lib) (family : Int) (port host : String) (device : Option String)
  | acceptConnReq (lib : Lib)
  | rcv (io : RcvIo) (lenBuf : Int)
  | send (io : SendIo) (lenBuf : Int)
  | abort
  | setSock (sock : Int)
  | setKeepAliveIntvl (keepAliveIntvl : Int)
  | setKeepAliveProbes (keepAliveProbes : Int)
  | setKeepAliveTime (keepAliveTime : Int)
  | enableKeepAlive (r : RsRetVal)
  | checkConnection (r : RsRetVal)
  | getSock (r : RsRetVal)
  | getRemoteHName (r : RsRetVal)
  | getRemAddr (r : RsRetVal)
  | getRemoteIP (r : RsRetVal)

-- The status, the driver left behind and the calls made; `none` where a loop of the source is
-- still running when the answers run out. AcceptConnReq leaves the listener as it was.
def Op.exec : Op → NsdMbedtls → Option (RsRetVal × NsdMbedtls × List Call)
  | .setter s, d => some (s.exec d)
  | .connect lib family port host device, d => some (RsyslogMbedtls.connect lib family port host device d)
  | .acceptConnReq lib, d => (RsyslogMbedtls.acceptConnReq lib d).map fun res => (res.1,d,res.2.2)
  | .rcv io lenBuf, d =>
    some ((RsyslogMbedtls.rcv io (d,lenBuf)).1,(RsyslogMbedtls.rcv io (d,lenBuf)).2.1.1,
      (RsyslogMbedtls.rcv io (d,lenBuf)).2.2)
  | .send io lenBuf, d => (RsyslogMbedtls.send io (d,lenBuf)).map fun res => (res.1,res.2.1.1,res.2.2)
  | .abort, d => some (RsyslogMbedtls.abort d)
  | .setSock sock, d => some (RsyslogMbedtls.setSock sock d)
  | .setKeepAliveIntvl n, d => some (RsyslogMbedtls.setKeepAliveIntvl n d)
  | .setKeepAliveProbes n, d => some (RsyslogMbedtls.setKeepAliveProbes n d)
  | .setKeepAliveTime n, d => some (RsyslogMbedtls.setKeepAliveTime n d)
  | .enableKeepAlive r, d => some (RsyslogMbedtls.enableKeepAlive r d)
  | .checkConnection r, d => some (RsyslogMbedtls.checkConnection r d)
  | .getSock r, d => some (RsyslogMbedtls.getSock r d)
  | .getRemoteHName r, d => some (RsyslogMbedtls.getRemoteHName r d)
  | .getRemAddr r, d => some (RsyslogMbedtls.getRemAddr r d)
  | .getRemoteIP r, d => some (RsyslogMbedtls.getRemoteIP r d)

-- Made by the constructor, left by an operation `op` on `d` with `allowed d op`, or handed back by AcceptConnReq.
inductive ReachableUnder (allowed : NsdMbedtls → Op → Prop) : NsdMbedtls → Prop where
  | construct (pTcp : Option Nat) : ReachableUnder allowed (nsdMbedtlsConstruct pTcp)
  | step (op : Op) {d d' : NsdMbedtls} {r : RsRetVal} {calls : List Call} :
      ReachableUnder allowed d → allowed d op → op.exec d = some (r,d',calls) → ReachableUnder allowed d'
  | accepted (lib : Lib) {d pNew : NsdMbedtls} {r : RsRetVal} {calls : List Call} :
      ReachableUnder allowed d → allowed d (.acceptConnReq lib) →
      RsyslogMbedtls.acceptConnReq lib d = some (r,some pNew,calls) → ReachableUnder allowed pNew

def Reachable : NsdMbedtls → Prop := ReachableUnder fun _ _ => True

theorem exec_cases (op : Op) (d d' : NsdMbedtls) (r : RsRetVal) (calls : List Call)
    (ran : op.exec d = some (r,d',calls)) :
    (∃ s, op = .setter s ∧ d' = (s.exec d).2.1) ∨
      (bootFrame d' = bootFrame d ∧ (d'.bHaveSess = true → d.bHaveSess = true ∨ d.iMode ≠ 0)) := by
  have same : d' = d → bootFrame d' = bootFrame d ∧ (d'.bHaveSess = true → d.bHaveSess = true ∨ d.iMode ≠ 0) :=
    fun e => e ▸ ⟨rfl,.inl⟩
  cases op <;> simp only [Op.exec,Option.some.injEq,Option.map_eq_some'] at ran
  case setter s => exact .inl ⟨s,rfl,congrArg (·.2.1) ran.symm⟩
  case connect lib family port host device =>
    obtain rfl : d' = (connect lib family port host device d).2.1 := (congrArg (·.2.1) ran).symm
    exact .inr (connect_frame lib family port host device d)
  case acceptConnReq lib =>
    obtain ⟨_,-,e⟩ := ran
    exact .inr (same (congrArg (·.2.1) e).symm)
  case rcv io lenBuf =>
    obtain ⟨n,e⟩ := rcv_driver io d lenBuf
    rw [← (Prod.mk.inj (Prod.mk.inj ran).2).1,e]
    exact .inr ⟨rfl,.inl⟩
  case send io lenBuf =>
    obtain ⟨res,sent,e⟩ := ran
    exact .inr (same ((congrArg (·.2.1) e).symm.trans (send_driver io d lenBuf res sent)))
  case abort =>
    obtain rfl : d' = (abort d).2.1 := (congrArg (·.2.1) ran).symm
    exact .inr (same (by unfold abort; split <;> rfl))
  all_goals exact .inr (same (congrArg (·.2.1) ran).symm)

theorem reachable_not_aborted {allowed : NsdMbedtls → Op → Prop} (d : NsdMbedtls)
    (reach : ReachableUnder allowed d) : d.bAbortConn = false := by
  induction reach with
  | construct => rfl
  | step op _ _ ran ih =>
    rcases exec_cases op _ _ _ _ ran with ⟨s,-,rfl⟩ | ⟨frame,-⟩
    · rw [setter_frame]; exact ih
    · exact (congrArg (·.2.2) frame).trans ih
  | accepted lib _ _ acc => exact (accepted_driver lib _ _ _ _ acc).1

theorem tls_abort_leaves_session_running (d : NsdMbedtls) (reach : Reachable d) (tls : d.iMode ≠ 0) :
    abort d = (.ok,d,[]) ∧
      (∀ io lenBuf, (rcv io ((abort d).2.1,lenBuf)).1 ≠ .connectionAbortreq ∧
        (rcv io ((abort d).2.1,lenBuf)).2.2.head? = some (.sslRead lenBuf)) ∧
      (∀ io lenBuf res, send io ((abort d).2.1,lenBuf) = some res →
        res.1 ≠ .connectionAbortreq ∧ res.2.2.head? = some (.sslWrite lenBuf)) := by
  have live := reachable_not_aborted d reach
  have aborted : abort d = (.ok,d,[]) := by simp [abort,tls]
  refine ⟨aborted,fun io lenBuf => ?_,fun io lenBuf res sent => ?_⟩ <;> rw [aborted] at *
  · rw [rcv_tls_status io d lenBuf live tls]
    exact ⟨by split_ifs <;> nofun,rcv_tls_reads io d lenBuf live tls⟩
  · simp only [send,live,tls,Bool.false_eq_true,↓reduceIte] at sent
    obtain ⟨⟨r,l⟩,loop,rfl⟩ := Option.map_eq_some'.1 sent
    have first := (sslWriteLoop_calls lenBuf io.sslWrite r l loop).1
    cases r
    · exact ⟨by simp only [ofMbedtls]; split_ifs <;> nofun,first⟩
    · exact ⟨nofun,first⟩

def tlsClient : NsdMbedtls :=
  (connect okLib 2 "514" "relay" none (setMode 1 (nsdMbedtlsConstruct (some 0))).2.1).2.1

theorem tlsClient_reachable : Reachable tlsClient :=
  .step (.connect okLib 2 "514" "relay" none) (.step (.setter (.setMode 1)) (.construct (some 0)) trivial rfl) trivial rfl

theorem rcv_after_tls_abort_reads :
    Reachable tlsClient ∧ tlsClient.iMode = 1 ∧ tlsClient.bHaveSess = true ∧ (abort tlsClient).1 = .ok ∧
      rcv ⟨(.ok,0),5,0⟩ ((abort tlsClient).2.1,16) = (.ok,((abort tlsClient).2.1,5),[.sslRead 16]) :=
  ⟨tlsClient_reachable,by decide,by decide,by decide,by decide⟩

theorem tls_client_abort_leaves_session_running :
    abort tlsClient = (.ok,tlsClient,[]) ∧
      (∀ io lenBuf, (rcv io ((abort tlsClient).2.1,lenBuf)).1 ≠ .connectionAbortreq ∧
        (rcv io ((abort tlsClient).2.1,lenBuf)).2.2.head? = some (.sslRead lenBuf)) ∧
      (∀ io lenBuf res, send io ((abort tlsClient).2.1,lenBuf) = some res →
        res.1 ≠ .connectionAbortreq ∧ res.2.2.head? = some (.sslWrite lenBuf)) :=
  tls_abort_leaves_session_running tlsClient tlsClient_reachable (by decide)

-- SetMode is called only on a driver without a session.
def SetModeBeforeSession (d : NsdMbedtls) : Op → Prop
  | .setter (.setMode _) => d.bHaveSess = false
  | _ => True

def SessionInTls (d : NsdMbedtls) : Prop := (d.iMode = 0 ∨ d.iMode = 1) ∧ (d.bHaveSess = true → d.iMode = 1)

theorem reachable_sessionInTls (d : NsdMbedtls) (reach : ReachableUnder SetModeBeforeSession d) :
    SessionInTls d := by
  induction reach with
  | construct => exact ⟨.inl rfl,nofun⟩
  | @step op d d' r calls _ allowed ran ih =>
    rcases exec_cases op _ _ _ _ ran with ⟨s,rfl,rfl⟩ | ⟨frame,sess⟩
    · have sess : (s.exec d).2.1.bHaveSess = d.bHaveSess := by rw [setter_frame]; rfl
      rcases setter_iMode s d with mode | ⟨m,rfl,valid⟩
      · exact ⟨mode ▸ ih.1,fun h => mode ▸ ih.2 (sess ▸ h)⟩
      · exact ⟨valid,fun h => absurd (sess ▸ h) (by simp [show d.bHaveSess = false from allowed])⟩
    · have mode : d'.iMode = d.iMode := congrArg (·.1.iMode) frame
      refine ⟨mode ▸ ih.1,fun h => mode ▸ ?_⟩
      rcases sess h with had | tls
      · exact ih.2 had
      · exact ih.1.resolve_left tls
  | @accepted lib l pNew _ _ _ _ acc ih =>
    obtain ⟨-,plain,tls⟩ := accepted_driver lib _ _ _ _ acc
    by_cases mode : l.iMode = 0
    · obtain ⟨config,sess⟩ := plain mode
      exact ⟨.inl (congrArg Config.iMode config),fun h => absurd (sess ▸ h) nofun⟩
    · obtain ⟨config,-⟩ := tls mode
      have same : pNew.iMode = l.iMode := congrArg Config.iMode config
      exact ⟨same ▸ ih.1,fun _ => same ▸ ih.1.resolve_left mode⟩

theorem session_stays_tls (d : NsdMbedtls) (reach : ReachableUnder SetModeBeforeSession d)
    (sess : d.bHaveSess = true) :
    d.iMode = 1 ∧
      (∀ io lenBuf, (rcv io (d,lenBuf)).2.2.head? = some (.sslRead lenBuf) ∧
        ∀ n, .ptcp (.rcv n) ∉ (rcv io (d,lenBuf)).2.2) ∧
      (∀ io lenBuf res, send io (d,lenBuf) = some res →
        res.2.2.head? = some (.sslWrite lenBuf) ∧ ∀ n, .ptcp (.send n) ∉ res.2.2) ∧
      (∀ answers calls, nsdMbedtlsDestruct answers d = some calls → calls.head? = some .closeNotify) := by
  have tls := (reachable_sessionInTls d reach).2 sess
  have tls' : d.iMode ≠ 0 := by omega
  have live := reachable_not_aborted d reach
  refine ⟨tls,fun io lenBuf => ⟨rcv_tls_reads io d lenBuf live tls',fun n mem => ?_⟩,
    fun io lenBuf res sent => ?_,fun answers calls ended => ?_⟩
  · rcases rcv_tls_calls io d lenBuf live tls' _ mem with e | ⟨_,e⟩ <;> cases e
  · simp only [send,live,tls',Bool.false_eq_true,↓reduceIte] at sent
    obtain ⟨⟨r,l⟩,loop,rfl⟩ := Option.map_eq_some'.1 sent
    obtain ⟨first,only⟩ := sslWriteLoop_calls lenBuf io.sslWrite r l loop
    have clean : ∀ n, .ptcp (.send n) ∉ l := fun n mem => by rcases only _ mem with e | ⟨_,e⟩ <;> cases e
    cases r <;> exact ⟨first,clean⟩
  · simp only [nsdMbedtlsDestruct,mbedtlsEndSess,tls,sess,↓reduceIte,Option.pure_def,Option.bind_eq_bind,
      Option.bind_eq_some,Option.map_eq_some',Option.some.injEq] at ended
    obtain ⟨_,⟨l,closed,rfl⟩,rfl⟩ := ended
    simp [closeNotifyLoop_head answers l closed]

def plainAfterSession : NsdMbedtls := (setMode 0 tlsClient).2.1

theorem setMode_on_session_leaves_plain_session :
    Reachable plainAfterSession ∧ plainAfterSession.bHaveSess = true ∧ plainAfterSession.iMode = 0 ∧
      send ⟨(.ok,16),[16]⟩ (plainAfterSession,16) = some (.ok,(plainAfterSession,16),[.ptcp (.send 16)]) ∧
      nsdMbedtlsDestruct [0] plainAfterSession = some [.ptcp (.destruct (some 0)),.release] :=
  ⟨.step (.setter (.setMode 0)) tlsClient_reachable trivial rfl,by decide,by decide,by decide,by decide⟩

theorem tls_client_session_stays_tls :
    tlsClient.iMode = 1 ∧
      (∀ io lenBuf, (rcv io (tlsClient,lenBuf)).2.2.head? = some (.sslRead lenBuf) ∧
        ∀ n, .ptcp (.rcv n) ∉ (rcv io (tlsClient,lenBuf)).2.2) ∧
      (∀ io lenBuf res, send io (tlsClient,lenBuf) = some res →
        res.2.2.head? = some (.sslWrite lenBuf) ∧ ∀ n, .ptcp (.send n) ∉ res.2.2) ∧
      (∀ answers calls, nsdMbedtlsDestruct answers tlsClient = some calls → calls.head? = some .closeNotify) :=
  session_stays_tls tlsClient
    (.step (.connect okLib 2 "514" "relay" none) (.step (.setter (.setMode 1)) (.construct (some 0)) rfl rfl) trivial rfl)
    (by decide)

theorem destruct_loops_while_would_block :
    Reachable tlsClient ∧ tlsClient.iMode = 1 ∧ tlsClient.bHaveSess = true ∧
      ∀ n, nsdMbedtlsDestruct (List.replicate n mbedtlsErrSslWantRead) tlsClient = none := by
  have tls : tlsClient.iMode = 1 := by decide
  have sess : tlsClient.bHaveSess = true := by decide
  refine ⟨tlsClient_reachable,tls,sess,fun n => ?_⟩
  simp [nsdMbedtlsDestruct,mbedtlsEndSess,tls,sess,closeNotifyLoop_eq,List.findIdx?_replicate,mbedtlsErrSslWantRead]

theorem destruct_stops_at_first_final_answer (answers : List Int) (d : NsdMbedtls) (tls : d.iMode = 1)
    (sess : d.bHaveSess = true) :
    mbedtlsEndSess answers d =
        (answers.findIdx? fun r => !decide (r ≠ 0 ∧ (r = mbedtlsErrSslWantRead ∨ r = mbedtlsErrSslWantWrite))).map
          (fun i => ({d with bHaveSess := false},List.replicate (i+1) Call.closeNotify)) ∧
      nsdMbedtlsDestruct answers d =
        (answers.findIdx? fun r => !decide (r ≠ 0 ∧ (r = mbedtlsErrSslWantRead ∨ r = mbedtlsErrSslWantWrite))).map
          fun i => List.replicate (i+1) Call.closeNotify ++ (if d.pTcp.isSome then [.ptcp (.destruct d.pTcp)] else []) ++
            [.release] := by
  have ended : mbedtlsEndSess answers d = (closeNotifyLoop answers).map fun l => ({d with bHaveSess := false},l) :=
    if_pos sess
  refine ⟨?_,?_⟩
  · rw [ended,closeNotifyLoop_eq,Option.map_map]
    rfl
  · rw [nsdMbedtlsDestruct,if_pos tls,ended,closeNotifyLoop_eq]
    cases answers.findIdx? _ <;> rfl

theorem tls_client_destruct_stops_at_first_final_answer :
    tlsClient.iMode = 1 ∧ tlsClient.bHaveSess = true ∧
    (mbedtlsEndSess [mbedtlsErrSslWantRead,0] tlsClient =
        ([mbedtlsErrSslWantRead,0].findIdx? fun r =>
          !decide (r ≠ 0 ∧ (r = mbedtlsErrSslWantRead ∨ r = mbedtlsErrSslWantWrite))).map
          (fun i => ({tlsClient with bHaveSess := false},List.replicate (i+1) Call.closeNotify)) ∧
      nsdMbedtlsDestruct [mbedtlsErrSslWantRead,0] tlsClient =
        ([mbedtlsErrSslWantRead,0].findIdx? fun r =>
          !decide (r ≠ 0 ∧ (r = mbedtlsErrSslWantRead ∨ r = mbedtlsErrSslWantWrite))).map
          fun i => List.replicate (i+1) Call.closeNotify ++
            (if tlsClient.pTcp.isSome then [.ptcp (.destruct tlsClient.pTcp)] else []) ++ [.release]) :=
  ⟨by decide,by decide,destruct_stops_at_first_final_answer [mbedtlsErrSslWantRead,0] tlsClient (by decide) (by decide)⟩

-- SetAuthMode is called only while no permitted peer is stored.
def AuthModeBeforePeer (d : NsdMbedtls) : Op → Prop
  | .setter (.setAuthMode _) => d.pPermPeer = none
  | _ => True

theorem reachable_peerChecked (d : NsdMbedtls) (reach : ReachableUnder AuthModeBeforePeer d) :
    PeerChecked d := by
  induction reach with
  | construct => nofun
  | @step op d d' r calls _ allowed ran ih =>
    rcases exec_cases op _ _ _ _ ran with ⟨s,rfl,rfl⟩ | ⟨frame,-⟩
    · by_cases auth : ∃ m, s = .setAuthMode m
      · obtain ⟨m,rfl⟩ := auth
        exact fun stored => absurd ((setAuthMode_pPermPeer m d).trans allowed) stored
      · exact setter_peerChecked s d (fun m e => auth ⟨m,e⟩) ih
    · exact PeerChecked.of_config (congrArg (·.1) frame) ih
  | @accepted lib l pNew _ _ _ _ acc ih =>
    obtain ⟨-,plain,tls⟩ := accepted_driver lib _ _ _ _ acc
    by_cases mode : l.iMode = 0
    · exact PeerChecked.of_config (plain mode).1 fun stored => absurd rfl stored
    · exact PeerChecked.of_config (tls mode).1 ih

theorem stored_peer_is_checked (d : NsdMbedtls) (reach : ReachableUnder AuthModeBeforePeer d) (peer : String)
    (stored : d.pPermPeer = some peer) :
    d.authMode = mbedtlsSslVerifyRequired ∧ d.bChkName = true ∧
      (∀ host, connectPeerName host d = some peer) ∧ acceptPeerName d = some peer := by
  obtain ⟨mode,chk⟩ := reachable_peerChecked d reach (by simp [stored])
  exact ⟨mode,chk,fun host => by simp [connectPeerName,chk,stored],by simp [acceptPeerName,chk,stored]⟩

def anonWithPeer : NsdMbedtls :=
  (setAuthMode (some "anon")
    (setPermPeers [⟨"relay",.plain⟩] true (setAuthMode none (nsdMbedtlsConstruct (some 0))).2.1).2.1).2.1

theorem anon_after_peer_ignores_it :
    Reachable anonWithPeer ∧ anonWithPeer.pPermPeer = some "relay" ∧
      anonWithPeer.authMode = mbedtlsSslVerifyNone ∧ anonWithPeer.bChkName = false ∧
      connectPeerName "relay" anonWithPeer = none ∧ acceptPeerName anonWithPeer = none :=
  ⟨.step (.setter (.setAuthMode (some "anon")))
    (.step (.setter (.setPermPeers [⟨"relay",.plain⟩] true))
      (.step (.setter (.setAuthMode none)) (.construct (some 0)) trivial rfl) trivial rfl) trivial rfl,
    by decide,by decide,by decide,by decide,by decide⟩

def peerClient : NsdMbedtls :=
  (setPermPeers [⟨"relay",.plain⟩] true (setAuthMode none (nsdMbedtlsConstruct (some 0))).2.1).2.1

theorem peer_client_stored_peer_is_checked :
    peerClient.pPermPeer = some "relay" ∧
      (peerClient.authMode = mbedtlsSslVerifyRequired ∧ peerClient.bChkName = true ∧
        (∀ host, connectPeerName host peerClient = some "relay") ∧ acceptPeerName peerClient = some "relay") :=
  ⟨rfl,stored_peer_is_checked peerClient
    (.step (.setter (.setPermPeers [⟨"relay",.plain⟩] true))
      (.step (.setter (.setAuthMode none)) (.construct (some 0)) rfl rfl) trivial rfl)
    "relay" rfl⟩

def NoSetAuthMode (_ : NsdMbedtls) : Op → Prop
  | .setter (.setAuthMode _) => False
  | _ => True

theorem reachable_without_setAuthMode (d : NsdMbedtls) (reach : ReachableUnder NoSetAuthMode d) :
    d.authMode = mbedtlsSslVerifyNone ∧ d.bChkName = false := by
  induction reach with
  | construct => exact ⟨rfl,rfl⟩
  | @step op d d' r calls _ allowed ran ih =>
    rcases exec_cases op _ _ _ _ ran with ⟨s,rfl,rfl⟩ | ⟨frame,-⟩
    · have notAuth : ∀ m, s ≠ .setAuthMode m := fun m e => by subst e; exact allowed
      obtain ⟨mode,chk⟩ := setter_authMode s d notAuth
      exact ⟨mode.trans ih.1,chk.trans ih.2⟩
    · have same : d'.config = d.config := congrArg (·.1) frame
      exact ⟨(congrArg Config.authMode same).trans ih.1,(congrArg Config.bChkName same).trans ih.2⟩
  | @accepted lib l pNew _ _ _ _ acc ih =>
    obtain ⟨-,plain,tls⟩ := accepted_driver lib _ _ _ _ acc
    by_cases mode : l.iMode = 0
    · have same := (plain mode).1
      exact ⟨congrArg Config.authMode same,congrArg Config.bChkName same⟩
    · have same := (tls mode).1
      exact ⟨(congrArg Config.authMode same).trans ih.1,(congrArg Config.bChkName same).trans ih.2⟩

theorem connect_without_setAuthMode_is_anon (lib : Lib) (family : Int) (port host : String)
    (device : Option String) (d : NsdMbedtls) (reach : ReachableUnder NoSetAuthMode d) (tls : d.iMode ≠ 0)
    (ok : (connect lib family port host device d).1 = .ok) :
    .confAuthmode mbedtlsSslVerifyNone ∈ (connect lib family port host device d).2.2 ∧
      .setHostname none ∈ (connect lib family port host device d).2.2 := by
  obtain ⟨mode,chk⟩ := reachable_without_setAuthMode d reach
  have policy := connect_policy lib family port host device d tls ok
  rwa [mode,show connectPeerName host d = none by simp [connectPeerName,chk]] at policy

theorem tls_client_without_setAuthMode_is_anon :
    .confAuthmode mbedtlsSslVerifyNone ∈ (connect okLib 2 "514" "relay" none (setMode 1 (nsdMbedtlsConstruct (some 0))).2.1).2.2 ∧
      .setHostname none ∈ (connect okLib 2 "514" "relay" none (setMode 1 (nsdMbedtlsConstruct (some 0))).2.1).2.2 :=
  connect_without_setAuthMode_is_anon okLib 2 "514" "relay" none _
    (.step (.setter (.setMode 1)) (.construct (some 0)) trivial rfl) (by decide) (by decide)

theorem connect_policy_not_last_setAuthMode :
    (connect okLib 2 "514" "relay" none (setMode 1 (nsdMbedtlsConstruct (some 0))).2.1).2.2.filter Call.isTlsConf =
        [.confDefaults mbedtlsSslIsClient,.confRng,.confAuthmode mbedtlsSslVerifyNone,.confCaChain none none,
          .confVerify 0,.sslSetup,.setHostname none] ∧
      (setAuthMode (some "x509/nme") (setAuthMode none (nsdMbedtlsConstruct (some 0))).2.1).1 = .valueNotSupported ∧
      (connect okLib 2 "514" "relay" none (setMode 1
          (setAuthMode (some "x509/nme") (setAuthMode none (nsdMbedtlsConstruct (some 0))).2.1).2.1).2.1).2.2.filter
          Call.isTlsConf =
        [.confDefaults mbedtlsSslIsClient,.confRng,.confAuthmode mbedtlsSslVerifyRequired,.confCaChain none none,
          .confVerify 0,.sslSetup,.setHostname none] ∧
      (connect okLib 2 "514" "relay" none (setMode 1
          (setAuthMode none (nsdMbedtlsConstruct (some 0))).2.1).2.1).2.2.filter Call.isTlsConf =
        [.confDefaults mbedtlsSslIsClient,.confRng,.confAuthmode mbedtlsSslVerifyRequired,.confCaChain none none,
          .confVerify 0,.sslSetup,.setHostname (some "relay")] :=
  ⟨by decide,by decide,by decide,by decide⟩

end RsyslogMbedtls

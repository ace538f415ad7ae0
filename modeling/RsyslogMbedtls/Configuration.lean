import RsyslogMbedtls.Lifecycle

namespace RsyslogMbedtls

open Body

theorem resolved_of_config (lib : Lib) {d d' : NsdMbedtls} (same : d'.config = d.config) (c : Cred) :
    resolved lib d' c = resolved lib d c := by
  have file : d'.file c = d.file c := by
    cases c
    · exact congrArg Config.pszKeyFile same
    · exact congrArg Config.pszCertFile same
    · exact congrArg Config.pszCAFile same
    · exact congrArg Config.pszCRLFile same
  simp only [resolved,file]

def nameCheckingListener : NsdMbedtls :=
  {nsdMbedtlsConstruct (some 0) with iMode := 1, authMode := mbedtlsSslVerifyRequired, bChkName := true
                                     pPermPeer := some "relay", pszCAFile := some "ca.pem"}

theorem failed_connect_destructs_quietly (lib : Lib) (family : Int) (port host : String) (device : Option String)
    (d : NsdMbedtls) (noSess : d.bHaveSess = false) (failed : (connect lib family port host device d).1 ≠ .ok)
    (answers : List Int) :
    nsdMbedtlsDestruct answers (connect lib family port host device d).2.1 =
      some ((if d.pTcp.isSome then [.ptcp (.destruct d.pTcp)] else []) ++ [.release]) := by
  have transport : (connect lib family port host device d).2.1.pTcp = d.pTcp :=
    congrArg (·.2.1) (connect_frame lib family port host device d).1
  have sess : (connect lib family port host device d).2.1.bHaveSess = false :=
    ((connectBody_keeps_sess_on_error lib family port host device).finish_failed d failed).trans noSess
  rw [destruct_without_session _ _ sess,transport]

theorem refused_tls_client_destructs_quietly :
    nsdMbedtlsDestruct [mbedtlsErrSslWantRead]
        (connect {okLib with ptcpConnect := .ioError} 2 "514" "relay" none (setMode 1 (nsdMbedtlsConstruct (some 0))).2.1).2.1 =
      some ((if (setMode 1 (nsdMbedtlsConstruct (some 0))).2.1.pTcp.isSome then
        [.ptcp (.destruct (setMode 1 (nsdMbedtlsConstruct (some 0))).2.1.pTcp)] else []) ++ [.release]) :=
  failed_connect_destructs_quietly _ 2 "514" "relay" none _ rfl (by decide) _

theorem acceptConnReq_handed (lib : Lib) (pThis pNew : NsdMbedtls) (r : RsRetVal) (calls : List Call)
    (accepted : acceptConnReq lib pThis = some (r,some pNew,calls)) :
    (acceptBody lib pThis (nsdMbedtlsConstruct lib.construct.2)).1 = .ok () ∧
      pNew = (acceptBody lib pThis (nsdMbedtlsConstruct lib.construct.2)).2.1 ∧
      calls = .ptcp .construct :: (acceptBody lib pThis (nsdMbedtlsConstruct lib.construct.2)).2.2 := by
  unfold acceptConnReq at accepted
  split_ifs at accepted
  · cases accepted
  simp only [finish_apply] at accepted
  generalize acceptBody lib pThis (nsdMbedtlsConstruct lib.construct.2) = run at accepted ⊢
  rcases run with ⟨e | _,t,l⟩ <;> simp only [] at accepted
  · split at accepted
    · rename_i heq
      exact absurd (congrArg Prod.fst heq) e.failed
    · obtain ⟨_,-,handed⟩ := Option.map_eq_some'.1 accepted
      cases handed
  simp only [Option.some.injEq,Prod.mk.injEq] at accepted
  exact ⟨rfl,accepted.2.1.symm,accepted.2.2.symm⟩

theorem copied_fresh (pThis : NsdMbedtls) (n : Option Nat) (p : Nat) :
    (copiedConfig pThis {nsdMbedtlsConstruct n with pTcp := some p}).Fresh ∧
      (copiedConfig pThis {nsdMbedtlsConstruct n with pTcp := some p}).config = pThis.config :=
  ⟨fun c => by cases c <;> exact ⟨rfl,rfl⟩,by simp only [copiedConfig,config_withConfig,nsdMbedtlsConstruct,Option.or_none]; rfl⟩

theorem copied_loadCreds (lib : Lib) (pThis : NsdMbedtls) (n : Option Nat) (p : Nat) (c : Cred) :
    (loadCreds lib (copiedConfig pThis {nsdMbedtlsConstruct n with pTcp := some p})).bHave c = (resolved lib pThis c).isSome ∧
      (loadCreds lib (copiedConfig pThis {nsdMbedtlsConstruct n with pTcp := some p})).loaded c = resolved lib pThis c := by
  obtain ⟨fresh,same⟩ := copied_fresh pThis n p
  rw [← resolved_of_config lib same c]
  exact loadCreds_fresh lib _ fresh c

def NoConnect (_ : NsdMbedtls) : Op → Prop
  | .connect .. => False
  | _ => True

theorem exec_keeps_loaded (op : Op) (d d' : NsdMbedtls) (r : RsRetVal) (calls : List Call)
    (ran : op.exec d = some (r,d',calls)) (notConnect : NoConnect d op) :
    (∀ c, d'.bHave c = d.bHave c ∧ d'.loaded c = d.loaded c) ∧ d'.bHaveSess = d.bHaveSess := by
  have same : d' = d → (∀ c, d'.bHave c = d.bHave c ∧ d'.loaded c = d.loaded c) ∧ d'.bHaveSess = d.bHaveSess :=
    fun e => e ▸ ⟨fun _ => ⟨rfl,rfl⟩,rfl⟩
  cases op <;> simp only [Op.exec,Option.some.injEq,Option.map_eq_some'] at ran
  case setter s =>
    obtain rfl : d' = (s.exec d).2.1 := (congrArg (·.2.1) ran).symm
    rw [setter_frame]
    exact ⟨fun c => by cases c <;> exact ⟨rfl,rfl⟩,rfl⟩
  case connect => exact notConnect.elim
  case acceptConnReq lib =>
    obtain ⟨_,-,e⟩ := ran
    exact same (congrArg (·.2.1) e).symm
  case rcv io lenBuf =>
    obtain ⟨n,e⟩ := rcv_driver io d lenBuf
    rw [← (Prod.mk.inj (Prod.mk.inj ran).2).1,e]
    exact ⟨fun c => by cases c <;> exact ⟨rfl,rfl⟩,rfl⟩
  case send io lenBuf =>
    obtain ⟨res,sent,e⟩ := ran
    exact same ((congrArg (·.2.1) e).symm.trans (send_driver io d lenBuf res sent))
  case abort =>
    obtain rfl : d' = (abort d).2.1 := (congrArg (·.2.1) ran).symm
    exact same (by unfold abort; split <;> rfl)
  all_goals exact same (congrArg (·.2.1) ran).symm

theorem reachable_fresh_or_session (d : NsdMbedtls) (reach : ReachableUnder NoConnect d) :
    d.Fresh ∨ d.bHaveSess = true := by
  induction reach with
  | construct => exact .inl fun c => by cases c <;> exact ⟨rfl,rfl⟩
  | step op _ allowed ran ih =>
    obtain ⟨loaded,sess⟩ := exec_keeps_loaded op _ _ _ _ ran allowed
    rcases ih with fresh | up
    · exact .inl fun c => by rw [(loaded c).1,(loaded c).2]; exact fresh c
    · exact .inr (sess.trans up)
  | accepted lib _ _ acc =>
    obtain ⟨ok,rfl,-⟩ := acceptConnReq_handed lib _ _ _ _ acc
    rw [(acceptBody_yields lib _ _ () ok).1]
    split
    · exact .inl fun c => by cases c <;> exact ⟨rfl,rfl⟩
    · exact .inr rfl

def keyedTls : NsdMbedtls :=
  (setTlsCertFile (some "cert.pem") true
    (setTlsKeyFile (some "key.pem") true (setMode 1 (nsdMbedtlsConstruct (some 0))).2.1).2.1).2.1

theorem keyedTls_reachable : ReachableUnder NoConnect keyedTls :=
  .step (.setter (.setTlsCertFile (some "cert.pem") true)) (.step (.setter (.setTlsKeyFile (some "key.pem") true))
    (.step (.setter (.setMode 1)) (.construct (some 0)) trivial rfl) trivial rfl) trivial rfl

-- A handshake still in progress counts as a success.
theorem first_connect_succeeds_iff (lib : Lib) (family : Int) (port host : String) (device : Option String)
    (d : NsdMbedtls) (reach : ReachableUnder NoConnect d) (noSess : d.bHaveSess = false) :
    (connect lib family port host device d).1 = .ok ↔
      lib.customString.1 = .ok ∧ lib.drbgSeed = 0 ∧ (∀ c f, resolved lib d c = some f → lib.parse c f = 0) ∧
      lib.ptcpConnect = .ok ∧
      (d.iMode ≠ 0 → lib.confDefaults = 0 ∧
        ((resolved lib d .key).isSome ∧ (resolved lib d .cert).isSome → lib.confOwnCert = 0) ∧
        lib.sslSetup = 0 ∧ lib.setHostname = 0 ∧ lib.getSock.1 = .ok ∧
        (lib.handshake = 0 ∨ lib.handshake = mbedtlsErrSslWantRead ∨ lib.handshake = mbedtlsErrSslWantWrite)) := by
  have fresh : d.Fresh := (reachable_fresh_or_session d reach).resolve_right (by simp [noSess])
  have key : (loadCreds lib d).bHaveKey = (resolved lib d .key).isSome := (loadCreds_fresh lib d fresh .key).1
  have cert : (loadCreds lib d).bHaveCert = (resolved lib d .cert).isSome := (loadCreds_fresh lib d fresh .cert).1
  unfold connect
  rw [Checks.finish_status (connectBody_checks lib family port host device) d,firstFailure_eq_ok]
  simp only [List.forall_mem_append,List.forall_mem_cons,credChecks_ok,ofMbedtls_eq_ok,key,cert]
  by_cases plain : d.iMode = 0 <;> simp [plain,tlsChecks_ok,and_assoc]

theorem keyed_client_connect_succeeds_iff :
    (connect okLib 2 "514" "relay" none keyedTls).1 = .ok ↔
      okLib.customString.1 = .ok ∧ okLib.drbgSeed = 0 ∧
      (∀ c f, resolved okLib keyedTls c = some f → okLib.parse c f = 0) ∧ okLib.ptcpConnect = .ok ∧
      (keyedTls.iMode ≠ 0 → okLib.confDefaults = 0 ∧
        ((resolved okLib keyedTls .key).isSome ∧ (resolved okLib keyedTls .cert).isSome → okLib.confOwnCert = 0) ∧
        okLib.sslSetup = 0 ∧ okLib.setHostname = 0 ∧ okLib.getSock.1 = .ok ∧
        (okLib.handshake = 0 ∨ okLib.handshake = mbedtlsErrSslWantRead ∨ okLib.handshake = mbedtlsErrSslWantWrite)) :=
  first_connect_succeeds_iff okLib 2 "514" "relay" none keyedTls
    keyedTls_reachable rfl

-- Connect's checked steps in source order, read off the driver it is called on.
def connectSteps (lib : Lib) (d : NsdMbedtls) : List RsRetVal :=
  [lib.customString.1,ofMbedtls lib.drbgSeed] ++ credChecks lib d ++ lib.ptcpConnect ::
    if d.iMode = 0 then [] else
      tlsChecks lib (((resolved lib d .key).isSome || d.bHaveKey) && ((resolved lib d .cert).isSome || d.bHaveCert))

theorem connect_status (lib : Lib) (family : Int) (port host : String) (device : Option String)
    (d : NsdMbedtls) : (connect lib family port host device d).1 = firstFailure (connectSteps lib d) := by
  have key : (loadCreds lib d).bHaveKey = _ := bHave_loadCreds lib d .key
  have cert : (loadCreds lib d).bHaveCert = _ := bHave_loadCreds lib d .cert
  rw [connect,Checks.finish_status (connectBody_checks lib family port host device) d,key,cert]
  rfl

theorem accept_refuses_bad_credential (lib : Lib) (pThis : NsdMbedtls) (tls : pThis.iMode ≠ 0)
    (constructed : lib.construct.1 = .ok) (transport : lib.ptcpDestruct = .ok ∧ lib.ptcpAcceptConnReq.1 = .ok)
    (copied : lib.strdupPeerOk = true ∧ ∀ c, lib.strdupFileOk c = true)
    (session : lib.customString.1 = .ok ∧ lib.drbgSeed = 0) (c : Cred) (f : String)
    (res : resolved lib pThis c = some f) (bad : lib.parse c f ≠ 0) :
    ∃ r calls, acceptConnReq lib pThis = some (r,none,calls) ∧ r ≠ .ok ∧
      .logMsg .err logErr "nsd mbedtls: error parsing crypto config" ∈ calls := by
  have copy := acceptCopy_of_strdup_ok lib pThis copied {nsdMbedtlsConstruct lib.construct.2 with
    pTcp := some lib.ptcpAcceptConnReq.2} rfl fun c => by cases c <;> rfl
  set t := {nsdMbedtlsConstruct lib.construct.2 with pTcp := some lib.ptcpAcceptConnReq.2}.withConfig pThis.config
  have seeded : mbedtlsInitSession lib t = (.ok (),t,[.drbgSeed lib.customString.2]) := by
    simp [mbedtlsInitSession,session,ofMbedtls]
  obtain ⟨failed,logged⟩ := initCred_refuses lib t c f ((resolved_of_config lib (config_withConfig _ _) c).trans res) bad
  have noSess : (mbedtlsInitCred lib t).2.1.bHaveSess = false :=
    (initCred_keeps lib bootBlind_sess : Keeps (·.bHaveSess) _) t
  unfold acceptConnReq
  rw [if_neg (not_not.2 constructed)]
  simp only [finish_apply,acceptBody,bind_apply,get_apply,modify_apply,ext_apply,transport.1,ptcpAcceptInto,
    transport.2,↓reduceDIte,if_neg tls,acceptSession,copy,acceptBootstrap,seeded]
  generalize mbedtlsInitCred lib t = run at failed logged noSess
  rcases run with ⟨⟨e,notOk⟩ | _,t',l⟩
  · simp only [destruct_without_session _ _ noSess,Option.map_some']
    exact ⟨_,_,rfl,notOk,by simp [logged]⟩
  · exact absurd rfl failed

def brokenKeyLib : Lib :=
  {okLib with
    dflt := fun | .ca => some "ca.pem" | .cert => some "cert.pem" | .key => some "key-fail.pem" | .crl => none
    parse := fun _ f => if f = "key-fail.pem" then -0x3E00 else 0}

def anonListener : NsdMbedtls := (setAuthMode (some "anon") (setMode 1 (nsdMbedtlsConstruct (some 0))).2.1).2.1

theorem anon_listener_refuses_broken_key :
    ∃ r calls, acceptConnReq brokenKeyLib anonListener = some (r,none,calls) ∧ r ≠ .ok ∧
      .logMsg .err logErr "nsd mbedtls: error parsing crypto config" ∈ calls :=
  accept_refuses_bad_credential brokenKeyLib anonListener (by decide) rfl ⟨rfl,rfl⟩ ⟨rfl,fun _ => rfl⟩ ⟨rfl,rfl⟩
    .key "key-fail.pem" rfl (by decide)

theorem acceptConnReq_hands_iff (lib : Lib) (pThis : NsdMbedtls) :
    (∃ pNew calls, acceptConnReq lib pThis = some (.ok,some pNew,calls)) ↔
      lib.construct.1 = .ok ∧ (finish (acceptBody lib pThis) (nsdMbedtlsConstruct lib.construct.2)).1 = .ok := by
  unfold acceptConnReq
  by_cases constructed : lib.construct.1 = .ok
  · rw [if_neg (not_not.2 constructed)]
    simp only [finish_apply]
    rcases acceptBody lib pThis (nsdMbedtlsConstruct lib.construct.2) with ⟨⟨e,notOk⟩ | _,t,l⟩
    · simp only [constructed,true_and,notOk,iff_false,not_exists]
      intro pNew calls handed
      cases e <;> simp at handed notOk
    · simp [constructed]
  · rw [if_pos constructed]
    simp [constructed]

theorem accept_succeeds_iff (lib : Lib) (pThis : NsdMbedtls) :
    (∃ pNew calls, acceptConnReq lib pThis = some (.ok,some pNew,calls)) ↔
      lib.construct.1 = .ok ∧ lib.ptcpDestruct = .ok ∧ lib.ptcpAcceptConnReq.1 = .ok ∧
      (pThis.iMode ≠ 0 → (pThis.pPermPeer.isSome → lib.strdupPeerOk = true) ∧
        (∀ c, (pThis.file c).isSome → lib.strdupFileOk c = true) ∧
        lib.customString.1 = .ok ∧ lib.drbgSeed = 0 ∧ (∀ c f, resolved lib pThis c = some f → lib.parse c f = 0) ∧
        lib.confDefaults = 0 ∧
        ((resolved lib pThis .key).isSome ∧ (resolved lib pThis .cert).isSome → lib.confOwnCert = 0) ∧
        lib.sslSetup = 0 ∧ lib.setHostname = 0 ∧ lib.getSock.1 = .ok ∧
        (lib.handshake = 0 ∨ lib.handshake = mbedtlsErrSslWantRead ∨ lib.handshake = mbedtlsErrSslWantWrite)) := by
  have same := (copied_fresh pThis lib.construct.2 lib.ptcpAcceptConnReq.2).2
  have key : (loadCreds lib _).bHaveKey = _ := (copied_loadCreds lib pThis lib.construct.2 lib.ptcpAcceptConnReq.2 .key).1
  have cert : (loadCreds lib _).bHaveCert = _ := (copied_loadCreds lib pThis lib.construct.2 lib.ptcpAcceptConnReq.2 .cert).1
  rw [acceptConnReq_hands_iff,Checks.finish_status (acceptBody_checks lib pThis),firstFailure_eq_ok]
  simp only [List.forall_mem_cons]
  by_cases plain : pThis.iMode = 0
  · simp [plain]
  · simp only [plain,↓reduceIte,List.forall_mem_append,List.forall_mem_cons,copyChecks_ok,credChecks_ok,tlsChecks_ok,
      ofMbedtls_eq_ok,resolved_of_config lib same,key,cert]
    simp [plain,and_assoc]

-- AcceptConnReq's checked steps in source order, read off the listener.
def acceptSteps (lib : Lib) (pThis : NsdMbedtls) : List RsRetVal :=
  lib.construct.1 :: lib.ptcpDestruct :: lib.ptcpAcceptConnReq.1 :: if pThis.iMode = 0 then [] else
    copyChecks lib pThis ++ [lib.customString.1,ofMbedtls lib.drbgSeed] ++ credChecks lib pThis ++
      tlsChecks lib ((resolved lib pThis .key).isSome && (resolved lib pThis .cert).isSome)

theorem accept_status (lib : Lib) (pThis : NsdMbedtls) :
    ∃ ppNew calls, acceptConnReq lib pThis = some (firstFailure (acceptSteps lib pThis),ppNew,calls) := by
  unfold acceptConnReq
  by_cases constructed : lib.construct.1 = .ok
  · have same := (copied_fresh pThis lib.construct.2 lib.ptcpAcceptConnReq.2).2
    have key : (loadCreds lib _).bHaveKey = _ := (copied_loadCreds lib pThis lib.construct.2 lib.ptcpAcceptConnReq.2 .key).1
    have cert : (loadCreds lib _).bHaveCert = _ := (copied_loadCreds lib pThis lib.construct.2 lib.ptcpAcceptConnReq.2 .cert).1
    have steps : firstFailure (acceptSteps lib pThis) =
        (finish (acceptBody lib pThis) (nsdMbedtlsConstruct lib.construct.2)).1 := by
      rw [Checks.finish_status (acceptBody_checks lib pThis),key,cert]
      simp only [acceptSteps,firstFailure,constructed,↓reduceIte,credChecks,resolved_of_config lib same]
    have noSess := acceptBody_keeps_sess_on_error lib pThis (nsdMbedtlsConstruct lib.construct.2)
    rw [if_neg (not_not.2 constructed),steps]
    simp only [finish_apply]
    generalize acceptBody lib pThis (nsdMbedtlsConstruct lib.construct.2) = run at noSess
    rcases run with ⟨e | _,t,l⟩ <;> dsimp only
    · split
      · next heq => exact absurd (congrArg Prod.fst heq) e.failed
      · next heq =>
        simp only [Prod.mk.injEq] at heq
        obtain ⟨rfl,rfl,rfl⟩ := heq
        rw [destruct_without_session _ _ (noSess e rfl)]
        exact ⟨_,_,rfl⟩
    · exact ⟨_,_,rfl⟩
  · rw [if_pos constructed]
    simp [acceptSteps,firstFailure,constructed]

structure WellConfigured (c : Config) : Prop where
  mode : c.iMode = 0 ∨ c.iMode = 1
  authMode : c.authMode = mbedtlsSslVerifyNone ∨ c.authMode = mbedtlsSslVerifyRequired
  nameChecked : c.bChkName = true → c.authMode = mbedtlsSslVerifyRequired

theorem setAuthMode_wellConfigured (mode : Option String) (d : NsdMbedtls) (wc : WellConfigured d.config) :
    WellConfigured (setAuthMode mode d).2.1.config := by
  simp only [setAuthMode]
  split_ifs
  · exact ⟨wc.mode,.inr rfl,fun _ => rfl⟩
  · exact ⟨wc.mode,.inr rfl,fun _ => rfl⟩
  · exact ⟨wc.mode,.inl rfl,nofun⟩
  · exact ⟨wc.mode,wc.authMode,nofun⟩

theorem setter_wellConfigured (s : Setter) (d : NsdMbedtls) (wc : WellConfigured d.config) :
    WellConfigured (s.exec d).2.1.config := by
  by_cases auth : ∃ m, s = .setAuthMode m
  · obtain ⟨m,rfl⟩ := auth
    exact setAuthMode_wellConfigured m d wc
  have kept : (s.exec d).2.1.config.authMode = d.config.authMode ∧
      (s.exec d).2.1.config.bChkName = d.config.bChkName := setter_authMode s d fun m e => auth ⟨m,e⟩
  refine ⟨?_,kept.1 ▸ wc.authMode,fun named => kept.1 ▸ wc.nameChecked (kept.2 ▸ named)⟩
  rcases setter_iMode s d with same | ⟨_,-,set⟩
  · exact (show (s.exec d).2.1.config.iMode = d.config.iMode from same) ▸ wc.mode
  · exact set

-- The source's mode tests (iMode == 0 in Connect, Rcv, Send; iMode == 1 in Destruct, nsdsel) agree.
theorem reachable_wellConfigured {allowed : NsdMbedtls → Op → Prop} (d : NsdMbedtls)
    (reach : ReachableUnder allowed d) : WellConfigured d.config := by
  induction reach with
  | construct => exact ⟨.inl rfl,.inl rfl,nofun⟩
  | @step op d d' _ _ _ _ ran ih =>
    rcases exec_cases op _ _ _ _ ran with ⟨s,-,rfl⟩ | ⟨frame,-⟩
    · exact setter_wellConfigured s _ ih
    · exact (show d'.config = d.config from congrArg Prod.fst frame) ▸ ih
  | @accepted lib l pNew _ _ _ _ acc ih =>
    obtain ⟨-,plain,tls⟩ := accepted_driver lib _ _ _ _ acc
    by_cases mode : l.iMode = 0
    · exact (plain mode).1 ▸ ⟨.inl rfl,.inl rfl,nofun⟩
    · exact (tls mode).1 ▸ ih

theorem tls_client_wellConfigured : WellConfigured tlsClient.config :=
  reachable_wellConfigured tlsClient tlsClient_reachable

end RsyslogMbedtls

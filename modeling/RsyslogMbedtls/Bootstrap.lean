import RsyslogMbedtls.Session

namespace RsyslogMbedtls
open Body

-- What the TLS bootstrap never writes, the final `bHaveSess = 1` included: the configuration,
-- the nested transport and the abort flag.
def bootFrame (d : NsdMbedtls) : Config × Option Nat × Bool := (d.config,d.pTcp,d.bAbortConn)

theorem bootBlind_frame : BootBlind bootFrame :=
  ⟨fun _ _ => rfl,fun _ _ c => by cases c <;> rfl,fun _ c => by cases c <;> rfl⟩

theorem bootBlind_sess : BootBlind (·.bHaveSess) :=
  ⟨fun _ _ => rfl,fun _ _ c => by cases c <;> rfl,fun _ c => by cases c <;> rfl⟩

theorem bootBlind_frame_sess : BootBlind fun d => (bootFrame d,d.bHaveSess) :=
  ⟨fun _ _ => rfl,fun _ _ c => by cases c <;> rfl,fun _ c => by cases c <;> rfl⟩

theorem connect_frame (lib : Lib) (family : Int) (port host : String) (device : Option String) (d : NsdMbedtls) :
    bootFrame (connect lib family port host device d).2.1 = bootFrame d ∧
      ((connect lib family port host device d).2.1.bHaveSess = true → d.bHaveSess = true ∨ d.iMode ≠ 0) := by
  have k1 := (initSession_keeps lib : Keeps (fun d => (bootFrame d,d.bHaveSess)) _) d
  unfold connect connectBody
  simp only [finish_apply,bind_apply]
  generalize mbedtlsInitSession lib d = r1 at k1
  rcases r1 with ⟨_ | _,t1,l1⟩ <;> simp only [Prod.mk.injEq] at k1 ⊢
  · exact ⟨k1.1,fun sess => .inl (k1.2 ▸ sess)⟩
  have k2 := (initCred_keeps lib bootBlind_frame_sess : Keeps (fun d => (bootFrame d,d.bHaveSess)) _) t1
  generalize mbedtlsInitCred lib t1 = r2 at k2
  rcases r2 with ⟨_ | _,t2,l2⟩ <;> simp only [Prod.mk.injEq] at k2 ⊢
  · exact ⟨k2.1.trans k1.1,fun sess => .inl (k1.2 ▸ k2.2 ▸ sess)⟩
  by_cases connected : lib.ptcpConnect = .ok
  · simp only [ext_apply,connected,↓reduceDIte,get_apply]
    split_ifs with plain
    · exact ⟨k2.1.trans k1.1,fun sess => .inl (k1.2 ▸ k2.2 ▸ sess)⟩
    have k3 : bootFrame (connectTls lib host t2).2.1 = bootFrame t2 := tlsHandshake_keeps lib bootBlind_frame _ _ t2
    have mode : d.iMode ≠ 0 := fun m => plain ((congrArg (·.1.iMode) (k2.1.trans k1.1)).trans m)
    simp only [bind_apply,modify_apply]
    generalize connectTls lib host t2 = r3 at k3
    rcases r3 with ⟨_ | _,t3,l3⟩ <;> exact ⟨k3.trans (k2.1.trans k1.1),fun _ => .inr mode⟩
  · simp only [ext_apply,connected,↓reduceDIte]
    exact ⟨k2.1.trans k1.1,fun sess => .inl (k1.2 ▸ k2.2 ▸ sess)⟩

theorem connectBody_keeps_sess_on_error (lib : Lib) (family : Int) (port host : String) (device : Option String) :
    KeepsOnError (·.bHaveSess) (connectBody lib family port host device) :=
  KeepsOnError.bind (initSession_keeps lib) fun _ => KeepsOnError.bind (initCred_keeps lib bootBlind_sess) fun _ =>
    KeepsOnError.bind (Keeps.ext' _ _) fun _ => KeepsOnError.bind Keeps.get' fun _ =>
    KeepsOnError.ite' (KeepsOnError.of_keeps (Keeps.pure' _))
      (KeepsOnError.bind (tlsHandshake_keeps lib bootBlind_sess _ _) fun _ => KeepsOnError.modify' _)

theorem tlsHandshake_policy (lib : Lib) (endpoint : Int) (hostname : NsdMbedtls → Option String) (s : NsdMbedtls)
    (ok : (tlsHandshake lib endpoint hostname s).1 = .ok ()) :
    .confAuthmode s.authMode ∈ (tlsHandshake lib endpoint hostname s).2.2 ∧
      .setHostname (hostname s) ∈ (tlsHandshake lib endpoint hostname s).2.2 := by
  unfold tlsHandshake at ok ⊢
  refine ⟨Makes.get_bind_at ?_ ok,Makes.get_bind_at ?_ ok⟩
  · exact Makes.bind_right fun _ => Makes.bind_right fun _ => Makes.bind_left Makes.call'
  · refine Makes.bind_right fun _ => Makes.bind_right fun _ => Makes.bind_right fun _ => Makes.bind_right fun _ =>
      Makes.bind_right fun _ => ?_
    dsimp only
    exact Makes.ite' (Makes.bind_right fun _ => Makes.bind_right fun _ => Makes.bind_left (Makes.ext' _))
      (Makes.bind_right fun _ => Makes.bind_right fun _ => Makes.bind_left (Makes.ext' _))

theorem connectPeerName_config {d d' : NsdMbedtls} (host : String) (same : d'.config = d.config) :
    connectPeerName host d' = connectPeerName host d := by
  have peer : d'.pPermPeer = d.pPermPeer := congrArg Config.pPermPeer same
  have chk : d'.bChkName = d.bChkName := congrArg Config.bChkName same
  simp only [connectPeerName,peer,chk]

theorem connect_policy (lib : Lib) (family : Int) (port host : String) (device : Option String) (d : NsdMbedtls)
    (tls : d.iMode ≠ 0) (ok : (connect lib family port host device d).1 = .ok) :
    .confAuthmode d.authMode ∈ (connect lib family port host device d).2.2 ∧
      .setHostname (connectPeerName host d) ∈ (connect lib family port host device d).2.2 := by
  have k1 := (initSession_keeps lib : Keeps bootFrame _) d
  unfold connect connectBody at ok ⊢
  simp only [finish_apply,bind_apply] at ok ⊢
  generalize mbedtlsInitSession lib d = r1 at k1 ok
  rcases r1 with ⟨⟨_,failed⟩ | _,t1,l1⟩ <;> simp only [] at ok ⊢
  · exact absurd ok failed
  have k2 := (initCred_keeps lib bootBlind_frame : Keeps bootFrame _) t1
  generalize mbedtlsInitCred lib t1 = r2 at k2 ok
  rcases r2 with ⟨⟨_,failed⟩ | _,t2,l2⟩ <;> simp only [] at ok ⊢
  · exact absurd ok failed
  have same : t2.config = d.config := congrArg Prod.fst (k2.trans k1)
  have tls2 : t2.iMode ≠ 0 := fun plain => tls ((congrArg Config.iMode same).symm.trans plain)
  by_cases connected : lib.ptcpConnect = .ok
  · simp only [ext_apply,connected,↓reduceDIte,get_apply,tls2,↓reduceIte,bind_apply,modify_apply] at ok ⊢
    have policy := tlsHandshake_policy lib mbedtlsSslIsClient (connectPeerName host) t2
    rw [show t2.authMode = d.authMode from congrArg Config.authMode same,connectPeerName_config host same] at policy
    unfold connectTls at ok ⊢
    generalize tlsHandshake lib mbedtlsSslIsClient (connectPeerName host) t2 = r3 at ok policy ⊢
    rcases r3 with ⟨⟨_,failed⟩ | _,t3,l3⟩ <;> simp only [] at ok ⊢
    · exact absurd ok failed
    obtain ⟨auth,name⟩ := policy rfl
    simp [auth,name]
  · simp only [ext_apply,connected,↓reduceDIte] at ok

section Accept
variable (lib : Lib) (pThis : NsdMbedtls)

theorem acceptBootstrap_keeps : Keeps bootFrame (acceptBootstrap lib) :=
  Keeps.bind (initSession_keeps lib) fun _ => Keeps.bind (initCred_keeps lib bootBlind_frame) fun _ =>
    Keeps.bind (tlsHandshake_keeps lib bootBlind_frame _ _) fun _ => Keeps.modify' fun _ => rfl

theorem acceptSession_keeps_sess_on_error : KeepsOnError (·.bHaveSess) (acceptSession lib pThis) :=
  KeepsOnError.bind ((acceptCopy_keeps_sess lib pThis).map Prod.fst) fun _ => KeepsOnError.bind (initSession_keeps lib) fun _ =>
    KeepsOnError.bind (initCred_keeps lib bootBlind_sess) fun _ =>
    KeepsOnError.bind (tlsHandshake_keeps lib bootBlind_sess _ _) fun _ => KeepsOnError.modify' _

theorem acceptBody_keeps_sess_on_error : KeepsOnError (·.bHaveSess) (acceptBody lib pThis) := by
  have accept : Keeps (·.bHaveSess) (ptcpAcceptInto lib.ptcpAcceptConnReq) := fun d => by
    unfold ptcpAcceptInto; split <;> rfl
  unfold acceptBody
  exact KeepsOnError.bind Keeps.get' fun _ => KeepsOnError.bind (Keeps.modify' fun _ => rfl) fun _ =>
    KeepsOnError.bind (Keeps.ext' _ _) fun _ => KeepsOnError.bind accept fun _ =>
    KeepsOnError.ite' (KeepsOnError.of_keeps (Keeps.pure' _)) (acceptSession_keeps_sess_on_error lib pThis)

theorem acceptSession_keeps_transport : Keeps (·.pTcp) (acceptSession lib pThis) :=
  Keeps.bind ((acceptCopy_keeps_sess lib pThis).map Prod.snd) fun _ =>
    (acceptBootstrap_keeps lib).map fun frame : Config × Option Nat × Bool => frame.2.1

theorem acceptBody_transport (s : NsdMbedtls) :
    (acceptBody lib pThis s).2.1.pTcp =
      if lib.ptcpDestruct = .ok ∧ lib.ptcpAcceptConnReq.1 = .ok then some lib.ptcpAcceptConnReq.2 else none := by
  unfold acceptBody
  simp only [bind_apply,get_apply,modify_apply,ext_apply,ptcpAcceptInto]
  by_cases destructed : lib.ptcpDestruct = .ok
  · by_cases accepted : lib.ptcpAcceptConnReq.1 = .ok
    · simp only [destructed,accepted,↓reduceDIte,and_self,↓reduceIte]
      split
      · rfl
      · exact acceptSession_keeps_transport lib pThis _
    · simp only [destructed,accepted,↓reduceDIte,and_false,↓reduceIte]
  · simp only [destructed,↓reduceDIte,false_and,↓reduceIte]

theorem acceptSession_ok (s : NsdMbedtls) (peer : s.pPermPeer = none) (files : ∀ c, s.file c = none)
    (ok : (acceptSession lib pThis s).1 = .ok ()) :
    bootFrame (acceptSession lib pThis s).2.1 = (pThis.config,s.pTcp,s.bAbortConn) ∧
      (acceptSession lib pThis s).2.1.bHaveSess = true := by
  unfold acceptSession at ok ⊢
  obtain ⟨_,copied,-,e⟩ := bind_ok ok
  have kept := acceptBootstrap_keeps lib (acceptCopy lib pThis s).2.1
  rw [← e,acceptCopy_ok lib pThis s peer files copied] at kept
  refine ⟨kept,(?_ : Ensures (·.bHaveSess = true) _) s () ok⟩
  exact Ensures.bind _ fun _ => Ensures.bind _ fun _ => Ensures.bind _ fun _ =>
    Ensures.bind _ fun _ => Ensures.modify' fun _ => rfl

theorem acceptBody_ok (s : NsdMbedtls) (peer : s.pPermPeer = none) (files : ∀ c, s.file c = none)
    (ok : (acceptBody lib pThis s).1 = .ok ()) :
    lib.ptcpAcceptConnReq.1 = .ok ∧
      (pThis.iMode = 0 → (acceptBody lib pThis s).2.1 = {s with pTcp := some lib.ptcpAcceptConnReq.2}) ∧
      (pThis.iMode ≠ 0 →
        bootFrame (acceptBody lib pThis s).2.1 = (pThis.config,some lib.ptcpAcceptConnReq.2,s.bAbortConn) ∧
        (acceptBody lib pThis s).2.1.bHaveSess = true) := by
  unfold acceptBody at ok ⊢
  simp only [bind_apply,get_apply,modify_apply,ext_apply,ptcpAcceptInto] at ok ⊢
  split_ifs at ok ⊢ with destructed accepted plain <;> simp only [] at ok ⊢
  · exact ⟨accepted,fun _ => rfl,fun tls => absurd plain tls⟩
  · exact ⟨accepted,fun plain' => absurd plain' plain,fun _ =>
      acceptSession_ok lib pThis {s with pTcp := some lib.ptcpAcceptConnReq.2} peer files ok⟩

end Accept

theorem accepted_driver (lib : Lib) (pThis pNew : NsdMbedtls) (r : RsRetVal) (calls : List Call)
    (accepted : acceptConnReq lib pThis = some (r,some pNew,calls)) :
    pNew.bAbortConn = false ∧
      (pThis.iMode = 0 → pNew.config = (nsdMbedtlsConstruct none).config ∧ pNew.bHaveSess = false) ∧
      (pThis.iMode ≠ 0 → pNew.config = pThis.config ∧ pNew.bHaveSess = true) := by
  unfold acceptConnReq at accepted
  split_ifs at accepted
  · cases accepted
  have done := acceptBody_ok lib pThis (nsdMbedtlsConstruct lib.construct.2) rfl (NsdMbedtls.file_construct _)
  simp only [finish_apply] at accepted
  generalize acceptBody lib pThis (nsdMbedtlsConstruct lib.construct.2) = run at accepted done
  rcases run with ⟨⟨e,notOk⟩ | _,t,l⟩ <;> simp only [] at accepted done
  · cases nsdMbedtlsDestruct lib.closeNotify t <;> simp at accepted
  obtain ⟨-,plain,tls⟩ := done trivial
  simp only [Option.some.injEq,Prod.mk.injEq] at accepted
  obtain ⟨-,rfl,-⟩ := accepted
  by_cases mode : pThis.iMode = 0
  · rw [plain mode]
    exact ⟨rfl,fun _ => ⟨rfl,rfl⟩,fun tls => absurd mode tls⟩
  · obtain ⟨frame,sess⟩ := tls mode
    simp only [bootFrame,Prod.mk.injEq] at frame
    exact ⟨frame.2.2,fun plain => absurd plain mode,fun _ => ⟨frame.1,sess⟩⟩

-- On failure AcceptConnReq destructs the driver it built, which holds what nsd_ptcp accepted.
theorem acceptConnReq_all_or_nothing (lib : Lib) (pThis : NsdMbedtls) :
    ∃ r ppNew calls, acceptConnReq lib pThis = some (r,ppNew,calls) ∧
      ((r = .ok ∧ ∃ pNew, ppNew = some pNew ∧ lib.ptcpAcceptConnReq.1 = .ok ∧
          pNew.pTcp = some lib.ptcpAcceptConnReq.2 ∧
          (pThis.iMode ≠ 0 → pNew.config = pThis.config ∧ pNew.bHaveSess = true)) ∨
       (r ≠ .ok ∧ ppNew = none ∧ ((r = lib.construct.1 ∧ calls = []) ∨
          calls = .ptcp .construct :: (acceptBody lib pThis (nsdMbedtlsConstruct lib.construct.2)).2.2 ++
            ((if lib.ptcpDestruct = .ok ∧ lib.ptcpAcceptConnReq.1 = .ok then
              [.ptcp (.destruct (some lib.ptcpAcceptConnReq.2))] else []) ++ [.release])))) := by
  unfold acceptConnReq
  by_cases failed : lib.construct.1 ≠ .ok
  · rw [if_pos failed]
    exact ⟨_,_,_,rfl,.inr ⟨failed,rfl,.inl ⟨rfl,rfl⟩⟩⟩
  have noSess := acceptBody_keeps_sess_on_error lib pThis (nsdMbedtlsConstruct lib.construct.2)
  have done := acceptBody_ok lib pThis (nsdMbedtlsConstruct lib.construct.2) rfl (NsdMbedtls.file_construct _)
  have transport := acceptBody_transport lib pThis (nsdMbedtlsConstruct lib.construct.2)
  rw [if_neg failed,finish_apply]
  generalize acceptBody lib pThis (nsdMbedtlsConstruct lib.construct.2) = run at noSess done transport ⊢
  rcases run with ⟨e | _,pNew,l⟩
  · have fresh : pNew.bHaveSess = false := noSess e rfl
    replace transport : pNew.pTcp = _ := transport
    obtain ⟨r,notOk⟩ := e
    simp only [destruct_without_session _ _ fresh,Option.map_some',transport]
    refine ⟨_,_,_,rfl,.inr ⟨notOk,rfl,.inr ?_⟩⟩
    by_cases accepted : lib.ptcpDestruct = .ok ∧ lib.ptcpAcceptConnReq.1 = .ok
    · simp only [if_pos accepted,Option.isSome_some,↓reduceIte]
    · simp only [if_neg accepted,Option.isSome_none,Bool.false_eq_true,↓reduceIte]
  · obtain ⟨accepted,plain,tls⟩ := done rfl
    refine ⟨_,_,_,rfl,.inl ⟨rfl,pNew,rfl,accepted,?_,fun mode => ?_⟩⟩
    · by_cases mode : pThis.iMode = 0
      · exact congrArg NsdMbedtls.pTcp (plain mode)
      · exact congrArg (·.2.1) (tls mode).1
    · obtain ⟨frame,sess⟩ := tls mode
      exact ⟨congrArg Prod.fst frame,sess⟩

section Retarget
variable (hostname : Option String) (lib : Lib)

end Retarget

-- Moving the nested transport elsewhere does not change the bootstrap.
section Transport
variable (lib : Lib) (p : Option Nat)

end Transport

-- A world in which every call succeeds and no process-wide default credential is set.
def okLib : Lib where
  construct := (.ok,some 0)
  ptcpDestruct := .ok
  ptcpAcceptConnReq := (.ok,1)
  ptcpConnect := .ok
  strdupPeerOk := true
  strdupFileOk := fun _ => true
  customString := (.ok,"nsd_mbedtls")
  drbgSeed := 0
  dflt := fun _ => none
  parse := fun _ _ => 0
  confDefaults := 0
  confOwnCert := 0
  sslSetup := 0
  setHostname := 0
  getSock := (.ok,3)
  handshake := 0
  closeNotify := [0]

end RsyslogMbedtls

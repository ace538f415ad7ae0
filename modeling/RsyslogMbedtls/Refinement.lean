import RsyslogMbedtls.Configuration

namespace RsyslogMbedtls

-- What the netstream layer above the driver can tell of it from the calls it made and the statuses
-- they returned: whether a TLS session is up, and the mode.
structure Phase where
  session : Bool
  iMode : Int
  deriving DecidableEq, Repr

def Phase.of (d : NsdMbedtls) : Phase := ⟨d.bHaveSess,d.iMode⟩

-- One call returning `r`: SetMode changes the mode when it succeeds, only a Connect in TLS mode
-- that returns RS_RET_OK opens a session, and no call closes one; that is left to Destruct.
def Phase.next (p : Phase) : Op → RsRetVal → Phase
  | .setter (.setMode m), r => if r = .ok then {p with iMode := m} else p
  | .connect .., r => {p with session := p.session || (r = .ok && p.iMode ≠ 0)}
  | _, _ => p

inductive Run : NsdMbedtls → List (Op × RsRetVal) → NsdMbedtls → Prop where
  | nil (d : NsdMbedtls) : Run d [] d
  | cons {d d' d'' : NsdMbedtls} {op : Op} {r : RsRetVal} {calls : List Call} {rest : List (Op × RsRetVal)} :
      op.exec d = some (r,d',calls) → Run d' rest d'' → Run d ((op,r) :: rest) d''

theorem sess_loadCredState (lib : Lib) (c : Cred) (s : NsdMbedtls) :
    (loadCredState lib c s).bHaveSess = s.bHaveSess := by
  unfold loadCredState
  cases resolved lib s c
  · rfl
  · exact (bootBlind_sess.bHave _ c).trans ((bootBlind_sess.loaded _ _ c).trans (bootBlind_sess.loaded _ _ c))

theorem connect_sess (lib : Lib) (family : Int) (port host : String) (device : Option String) (d : NsdMbedtls) :
    (connect lib family port host device d).2.1.bHaveSess =
      (d.bHaveSess || (connect lib family port host device d).1 = .ok && d.iMode ≠ 0) := by
  by_cases ok : (connect lib family port host device d).1 = .ok
  · have state : (connect lib family port host device d).2.1 = _ :=
      congrArg Prod.fst ((connectBody_yields lib family port host device).finish_ok d ok)
    rw [state,ok]
    by_cases plain : d.iMode = 0 <;> simp [plain,loadCreds,sess_loadCredState]
  · have kept : (connect lib family port host device d).2.1.bHaveSess = d.bHaveSess :=
      (connectBody_keeps_sess_on_error lib family port host device).finish_failed d ok
    simp [kept,ok]

theorem setter_phase (s : Setter) (d : NsdMbedtls) :
    Phase.of (s.exec d).2.1 = (Phase.of d).next (.setter s) (s.exec d).1 := by
  have sess : (s.exec d).2.1.bHaveSess = d.bHaveSess := by rw [setter_frame]; rfl
  rcases setter_iMode s d with mode | ⟨m,rfl,-⟩
  · cases s
    case setMode m =>
      simp only [Phase.of,Phase.next,Setter.exec,setMode] at sess mode ⊢
      split <;> simp_all
    all_goals simp [Phase.of,Phase.next,sess,mode]
  · simp only [Phase.of,Phase.next,Setter.exec,setMode] at sess ⊢
    split <;> simp [sess]

theorem exec_phase (op : Op) (d d' : NsdMbedtls) (r : RsRetVal) (calls : List Call)
    (ran : op.exec d = some (r,d',calls)) : Phase.of d' = (Phase.of d).next op r := by
  cases op
  case setter s =>
    simp only [Op.exec,Option.some.injEq] at ran
    obtain rfl : r = _ := (congrArg (·.1) ran).symm
    obtain rfl : d' = _ := (congrArg (·.2.1) ran).symm
    exact setter_phase s d
  case connect lib family port host device =>
    simp only [Op.exec,Option.some.injEq] at ran
    obtain rfl : r = _ := (congrArg (·.1) ran).symm
    obtain rfl : d' = _ := (congrArg (·.2.1) ran).symm
    have mode : (connect lib family port host device d).2.1.iMode = d.iMode :=
      congrArg (·.1.iMode) (connect_frame lib family port host device d).1
    simp [Phase.of,Phase.next,connect_sess,mode]
  all_goals
    obtain ⟨-,sess⟩ := exec_keeps_loaded _ d d' r calls ran trivial
    obtain ⟨_,setter,-⟩ | ⟨frame,-⟩ := exec_cases _ d d' r calls ran
    · cases setter
    · have mode : d'.iMode = d.iMode := congrArg (·.1.iMode) frame
      simp [Phase.of,Phase.next,sess,mode]

theorem accepted_phase (lib : Lib) (pThis pNew : NsdMbedtls) (r : RsRetVal) (calls : List Call)
    (accepted : acceptConnReq lib pThis = some (r,some pNew,calls)) :
    Phase.of pNew = ⟨pThis.iMode ≠ 0,pThis.iMode⟩ := by
  obtain ⟨-,plain,tls⟩ := accepted_driver lib pThis pNew r calls accepted
  by_cases mode : pThis.iMode = 0
  · obtain ⟨config,sess⟩ := plain mode
    have same : pNew.iMode = 0 := congrArg Config.iMode config
    simp [Phase.of,sess,same,mode]
  · obtain ⟨config,sess⟩ := tls mode
    have same : pNew.iMode = pThis.iMode := congrArg Config.iMode config
    simp [Phase.of,sess,same,mode]

theorem run_foldl {d d' : NsdMbedtls} {trace : List (Op × RsRetVal)} (run : Run d trace d') {p : Phase}
    (start : Phase.of d = p) : Phase.of d' = trace.foldl (fun p e => p.next e.1 e.2) p := by
  induction run generalizing p with
  | nil => exact start
  | cons ran _ ih => exact ih (by rw [exec_phase _ _ _ _ _ ran,start])

theorem run_phase (d d' : NsdMbedtls) (trace : List (Op × RsRetVal)) (run : Run d trace d') :
    Phase.of d' = trace.foldl (fun p e => p.next e.1 e.2) (Phase.of d) :=
  run_foldl run rfl

def clientTrace : List (Op × RsRetVal) := [(.setter (.setMode 1),.ok),(.connect okLib 2 "514" "relay" none,.ok)]

theorem tls_client_run_phase :
    Run (nsdMbedtlsConstruct (some 0)) clientTrace tlsClient ∧
      Phase.of tlsClient = clientTrace.foldl (fun p e => p.next e.1 e.2) (Phase.of (nsdMbedtlsConstruct (some 0))) :=
  have run : Run (nsdMbedtlsConstruct (some 0)) clientTrace tlsClient := .cons rfl (.cons rfl (.nil _))
  ⟨run,run_phase _ _ _ run⟩

theorem accepted_run_phase (lib : Lib) (pThis pNew d' : NsdMbedtls) (r : RsRetVal) (calls : List Call)
    (accepted : acceptConnReq lib pThis = some (r,some pNew,calls)) (trace : List (Op × RsRetVal))
    (run : Run pNew trace d') :
    Phase.of d' = trace.foldl (fun p e => p.next e.1 e.2) ⟨pThis.iMode ≠ 0,pThis.iMode⟩ :=
  run_foldl run (accepted_phase lib pThis pNew r calls accepted)

theorem accepted_session_survives_setMode :
    ∃ pNew calls d', acceptConnReq okLib nameCheckingListener = some (.ok,some pNew,calls) ∧
      Run pNew [(.setter (.setMode 0),.ok)] d' ∧
      Phase.of d' = [(Op.setter (.setMode 0),RsRetVal.ok)].foldl (fun p e => p.next e.1 e.2)
        ⟨nameCheckingListener.iMode ≠ 0,nameCheckingListener.iMode⟩ :=
  ⟨_,_,_,rfl,.cons rfl (.nil _),accepted_run_phase okLib nameCheckingListener _ _ .ok _ rfl _ (.cons rfl (.nil _))⟩

end RsyslogMbedtls

import Mathlib.Data.List.Basic

namespace RsyslogMbedtls

-- rsRetVal; `code n` is a nonzero Mbed TLS or C library status that CHKiRet hands back as it is.
inductive RsRetVal where
  | ok
  | err
  | outOfMemory
  | invalidDrvrMode
  | valueNotSupported
  | valueNotInThisMode
  | retry
  | closed
  | eof
  | rcvErr
  | connectionAbortreq
  | tlsHandshakeErr
  | ioError
  | noErrcode
  | code (n : Int)
  deriving DecidableEq, Repr

-- CHKiRet on a Mbed TLS call: 0 is success, anything else is the status returned.
def ofMbedtls (n : Int) : RsRetVal := if n = 0 then .ok else .code n

theorem ofMbedtls_eq_ok (n : Int) : ofMbedtls n = .ok ↔ n = 0 := by
  unfold ofMbedtls; split <;> simp_all

def mbedtlsSslVerifyNone : Int := 0
def mbedtlsSslVerifyRequired : Int := 2
def mbedtlsSslIsClient : Int := 0
def mbedtlsSslIsServer : Int := 1
def mbedtlsErrSslWantRead : Int := -0x6900
def mbedtlsErrSslWantWrite : Int := -0x6880
def mbedtlsErrSslPeerCloseNotify : Int := -0x7880

def logErr : Int := 3
def logWarning : Int := 4

inductive Cred where
  | key
  | cert
  | ca
  | crl
  deriving DecidableEq, Repr

inductive PtcpCall where
  | construct
  | destruct (pTcp : Option Nat)
  | acceptConnReq
  | connect (family : Int) (port host : String) (device : Option String)
  | rcv (lenBuf : Int)
  | send (lenBuf : Int)
  | abort
  | getSock
  | setSock (sock : Int)
  | enableKeepAlive
  | setKeepAliveIntvl (n : Int)
  | setKeepAliveProbes (n : Int)
  | setKeepAliveTime (n : Int)
  | checkConnection
  | getRemoteHName
  | getRemAddr
  | getRemoteIP
  | lstnInit
  deriving DecidableEq, Repr

-- What a call does outside the driver's fields, in order. `confCaChain` and `confOwnCert` carry the
-- files the installed objects were parsed from; `none` is a NULL pointer.
inductive Call where
  | ptcp (c : PtcpCall)
  | drbgSeed (custom : String)
  | parse (cred : Cred) (file : String)
  | confDefaults (endpoint : Int)
  | confRng
  | confAuthmode (authmode : Int)
  | confCaChain (ca crl : Option (Option String))
  | confVerify (depth : Int)
  | confOwnCert (cert key : Option String)
  | sslSetup
  | setHostname (hostname : Option String)
  | setBio (sock : Int)
  | handshake
  | sslRead (len : Int)
  | sslWrite (len : Int)
  | closeNotify
  | release
  | logError (iRet : RsRetVal) (msg : String)
  | logMsg (iRet : RsRetVal) (severity : Int) (msg : String)
  | logMbedtlsError (iRet : RsRetVal) (mbedtlsErr : Int)
  deriving DecidableEq, Repr

-- struct nsd_mbedtls_s. The Mbed TLS objects enter only through what the driver reads back:
-- the bytes the session buffers, and for each credential object the file it holds.
structure NsdMbedtls where
  pTcp : Option Nat
  pszCAFile : Option String
  pszCRLFile : Option String
  pszKeyFile : Option String
  pszCertFile : Option String
  iMode : Int
  bAbortConn : Bool
  authMode : Int
  bChkName : Bool
  bHaveSess : Bool
  drvrVerifyDepth : Int
  pPermPeer : Option String
  sock : Int
  bytesAvail : Nat
  bHaveCaCert : Bool
  cacert : Option String
  bHaveCrl : Bool
  crl : Option String
  bHaveKey : Bool
  pkey : Option String
  bHaveCert : Bool
  srvcert : Option String
  deriving DecidableEq, Repr

-- The object allocator hands BEGINobjConstruct a zero-filled instance; the constructor adds
-- the nested nsd_ptcp object and only initialises (does not seed or load) the TLS objects.
def nsdMbedtlsConstruct (pTcp : Option Nat) : NsdMbedtls :=
  ⟨pTcp,none,none,none,none,0,false,0,false,false,0,none,0,0,false,none,false,none,false,none,
    false,none⟩

namespace NsdMbedtls

-- One definition for the four blocks the source repeats for key, certificate, CA and CRL.
def file (d : NsdMbedtls) : Cred → Option String
  | .key => d.pszKeyFile
  | .cert => d.pszCertFile
  | .ca => d.pszCAFile
  | .crl => d.pszCRLFile

def setFile (d : NsdMbedtls) (v : Option String) : Cred → NsdMbedtls
  | .key => {d with pszKeyFile := v}
  | .cert => {d with pszCertFile := v}
  | .ca => {d with pszCAFile := v}
  | .crl => {d with pszCRLFile := v}

def loaded (d : NsdMbedtls) : Cred → Option String
  | .key => d.pkey
  | .cert => d.srvcert
  | .ca => d.cacert
  | .crl => d.crl

def setLoaded (d : NsdMbedtls) (v : Option String) : Cred → NsdMbedtls
  | .key => {d with pkey := v}
  | .cert => {d with srvcert := v}
  | .ca => {d with cacert := v}
  | .crl => {d with crl := v}

def bHave (d : NsdMbedtls) : Cred → Bool
  | .key => d.bHaveKey
  | .cert => d.bHaveCert
  | .ca => d.bHaveCaCert
  | .crl => d.bHaveCrl

def setBHave (d : NsdMbedtls) : Cred → NsdMbedtls
  | .key => {d with bHaveKey := true}
  | .cert => {d with bHaveCert := true}
  | .ca => {d with bHaveCaCert := true}
  | .crl => {d with bHaveCrl := true}

@[simp] theorem file_setFile (d : NsdMbedtls) (v : Option String) (c c' : Cred) :
    (d.setFile v c).file c' = if c' = c then v else d.file c' := by
  cases c <;> cases c' <;> rfl
@[simp] theorem loaded_setLoaded (d : NsdMbedtls) (v : Option String) (c c' : Cred) :
    (d.setLoaded v c).loaded c' = if c' = c then v else d.loaded c' := by
  cases c <;> cases c' <;> rfl
@[simp] theorem bHave_setBHave (d : NsdMbedtls) (c c' : Cred) :
    (d.setBHave c).bHave c' = (c' = c || d.bHave c') := by
  cases c <;> cases c' <;> simp [bHave,setBHave]
@[simp] theorem file_setLoaded (d : NsdMbedtls) (v : Option String) (c c' : Cred) :
    (d.setLoaded v c).file c' = d.file c' := by cases c <;> cases c' <;> rfl
@[simp] theorem file_setBHave (d : NsdMbedtls) (c c' : Cred) : (d.setBHave c).file c' = d.file c' := by
  cases c <;> cases c' <;> rfl
@[simp] theorem bHave_setLoaded (d : NsdMbedtls) (v : Option String) (c c' : Cred) :
    (d.setLoaded v c).bHave c' = d.bHave c' := by cases c <;> cases c' <;> rfl
@[simp] theorem loaded_setBHave (d : NsdMbedtls) (c c' : Cred) : (d.setBHave c).loaded c' = d.loaded c' := by
  cases c <;> cases c' <;> rfl
@[simp] theorem file_construct (pTcp : Option Nat) (c : Cred) : (nsdMbedtlsConstruct pTcp).file c = none := by
  cases c <;> rfl

end NsdMbedtls

structure Config where
  iMode : Int
  authMode : Int
  bChkName : Bool
  pPermPeer : Option String
  drvrVerifyDepth : Int
  pszCAFile : Option String
  pszCRLFile : Option String
  pszKeyFile : Option String
  pszCertFile : Option String
  deriving DecidableEq, Repr

def NsdMbedtls.config (d : NsdMbedtls) : Config :=
  ⟨d.iMode,d.authMode,d.bChkName,d.pPermPeer,d.drvrVerifyDepth,d.pszCAFile,d.pszCRLFile,d.pszKeyFile,
    d.pszCertFile⟩

def NsdMbedtls.withConfig (d : NsdMbedtls) (c : Config) : NsdMbedtls :=
  {d with iMode := c.iMode, authMode := c.authMode, bChkName := c.bChkName, pPermPeer := c.pPermPeer
          drvrVerifyDepth := c.drvrVerifyDepth, pszCAFile := c.pszCAFile, pszCRLFile := c.pszCRLFile
          pszKeyFile := c.pszKeyFile, pszCertFile := c.pszCertFile}

@[simp] theorem config_withConfig (d : NsdMbedtls) (c : Config) : (d.withConfig c).config = c := rfl

def NsdMbedtls.Fresh (d : NsdMbedtls) : Prop := ∀ c, d.bHave c = false ∧ d.loaded c = none

-- A driver entry point after RETiRet: the status it returns, the state it leaves, its calls.
abbrev Proc (σ : Type) := σ → RsRetVal × σ × List Call

structure Failure where
  iRet : RsRetVal
  failed : iRet ≠ .ok
  deriving DecidableEq

def firstFailure : List RsRetVal → RsRetVal
  | [] => .ok
  | r :: rs => if r = .ok then firstFailure rs else r

theorem firstFailure_append (l l' : List RsRetVal) :
    firstFailure (l ++ l') = if firstFailure l = .ok then firstFailure l' else firstFailure l := by
  induction l with
  | nil => rfl
  | cons r l ih => by_cases ok : r = .ok <;> simp [firstFailure,ok,ih]

theorem firstFailure_eq_ok (l : List RsRetVal) : firstFailure l = .ok ↔ ∀ r ∈ l, r = .ok := by
  induction l with
  | nil => simp [firstFailure]
  | cons r l ih => by_cases ok : r = .ok <;> simp [firstFailure,ok,ih]

-- A function body in the driver's DEFiRet/finalize_it style: it works on a state, logs the
-- calls it makes, and a failing CHKiRet or an ABORT_FINALIZE leaves it early with its status,
-- keeping the state reached so far for the code after finalize_it.
def Body (σ α : Type) : Type := σ → Except Failure α × σ × List Call

namespace Body
variable {σ α β : Type}

def bind (m : Body σ α) (f : α → Body σ β) : Body σ β := fun s =>
  match m s with
  | (.ok a,s',l) => let r := f a s'; (r.1,r.2.1,l ++ r.2.2)
  | (.error e,s',l) => (.error e,s',l)

instance : Monad (Body σ) where
  pure a := fun s => (.ok a,s,[])
  bind := bind

def get : Body σ σ := fun s => (.ok s,s,[])
def modify (f : σ → σ) : Body σ Unit := fun s => (.ok (),f s,[])
def call (c : Call) : Body σ Unit := fun s => (.ok (),s,[c])
-- ABORT_FINALIZE
def abort (r : Failure) : Body σ α := fun s => (.error r,s,[])
-- CHKiRet
def chk (r : RsRetVal) : Body σ Unit := fun s => if h : r = .ok then (.ok (),s,[]) else (.error ⟨r,h⟩,s,[])
-- a call reporting its status, checked with CHKiRet
def ext (c : Call) (r : RsRetVal) : Body σ Unit := fun s =>
  if h : r = .ok then (.ok (),s,[c]) else (.error ⟨r,h⟩,s,[c])
-- code after finalize_it that runs only when the body failed; the status is kept
def onError (m : Body σ Unit) (h : RsRetVal → Body σ Unit) : Body σ Unit := fun s =>
  match m s with
  | (.ok a,s',l) => (.ok a,s',l)
  | (.error e,s',l) => (.error e,(h e.iRet s').2.1,l ++ (h e.iRet s').2.2)
def finish (m : Body σ Unit) : Proc σ := fun s =>
  match m s with
  | (.ok _,s',l) => (.ok,s',l)
  | (.error e,s',l) => (e.iRet,s',l)

@[simp] theorem pure_apply (a : α) (s : σ) : (pure a : Body σ α) s = (.ok a,s,[]) := rfl
@[simp] theorem bind_apply (m : Body σ α) (f : α → Body σ β) (s : σ) : (m >>= f) s =
    match m s with
    | (.ok a,s',l) => ((f a s').1,(f a s').2.1,l ++ (f a s').2.2)
    | (.error e,s',l) => (.error e,s',l) := rfl
@[simp] theorem get_apply (s : σ) : (get : Body σ σ) s = (.ok s,s,[]) := rfl
@[simp] theorem modify_apply (f : σ → σ) (s : σ) : modify f s = (.ok (),f s,[]) := rfl
@[simp] theorem call_apply (c : Call) (s : σ) : (call c : Body σ Unit) s = (.ok (),s,[c]) := rfl
@[simp] theorem abort_apply (r : Failure) (s : σ) : (abort r : Body σ α) s = (.error r,s,[]) := rfl
@[simp] theorem chk_apply (r : RsRetVal) (s : σ) :
    (chk r : Body σ Unit) s = if h : r = .ok then (.ok (),s,[]) else (.error ⟨r,h⟩,s,[]) := rfl
@[simp] theorem onError_apply (m : Body σ Unit) (h : RsRetVal → Body σ Unit) (s : σ) : onError m h s =
    match m s with
    | (.ok a,s',l) => (.ok a,s',l)
    | (.error e,s',l) => (.error e,(h e.iRet s').2.1,l ++ (h e.iRet s').2.2) := rfl
@[simp] theorem ext_apply (c : Call) (r : RsRetVal) (s : σ) :
    (ext c r : Body σ Unit) s = if h : r = .ok then (.ok (),s,[c]) else (.error ⟨r,h⟩,s,[c]) := rfl
@[simp] theorem finish_apply (m : Body σ Unit) (s : σ) : finish m s =
    match m s with
    | (.ok _,s',l) => (.ok,s',l)
    | (.error e,s',l) => (e.iRet,s',l) := rfl

def Keeps {τ : Type} (π : σ → τ) (m : Body σ α) : Prop := ∀ s, π (m s).2.1 = π s

namespace Keeps
variable {τ : Type} {π : σ → τ}

theorem bind {m : Body σ α} {f : α → Body σ β} (hm : Keeps π m) (hf : ∀ a, Keeps π (f a)) :
    Keeps π (m >>= f) := by
  intro s
  simp only [bind_apply]
  split <;> rename_i h <;> simp only [] <;> rw [← hm s,h]
  exact hf _ _

theorem map {τ' : Type} (g : τ → τ') {m : Body σ α} (h : Keeps π m) : Keeps (g ∘ π) m := fun s =>
  congrArg g (h s)

theorem pure' (a : α) : Keeps π (pure a : Body σ α) := fun _ => rfl
theorem get' : Keeps π (get : Body σ σ) := fun _ => rfl
theorem call' (c : Call) : Keeps π (call c : Body σ Unit) := fun _ => rfl
theorem abort' (r : Failure) : Keeps π (abort r : Body σ α) := fun _ => rfl
theorem ext' (c : Call) (r : RsRetVal) : Keeps π (ext c r : Body σ Unit) := fun s => by
  simp only [ext_apply]; split <;> rfl
theorem chk' (r : RsRetVal) : Keeps π (chk r : Body σ Unit) := fun s => by
  simp only [chk_apply]; split <;> rfl
theorem modify' {f : σ → σ} (h : ∀ s, π (f s) = π s) : Keeps π (modify f) := h
theorem onError' {m : Body σ Unit} {h : RsRetVal → Body σ Unit} (hm : Keeps π m)
    (hh : ∀ r, Keeps π (h r)) : Keeps π (onError m h) := fun s => by
  simp only [onError_apply]; split <;> rename_i e <;> simp only [] <;> rw [← hm s,e]
  exact hh _ _
theorem ite' {p : Prop} [Decidable p] {a b : Body σ α} (ha : Keeps π a) (hb : Keeps π b) :
    Keeps π (if p then a else b) := by split <;> assumption

end Keeps

theorem bind_ok {m : Body σ α} {f : α → Body σ β} {s : σ} {b : β} (ok : ((m >>= f) s).1 = .ok b) :
    ∃ a, (m s).1 = .ok a ∧ (f a (m s).2.1).1 = .ok b ∧ ((m >>= f) s).2.1 = (f a (m s).2.1).2.1 := by
  simp only [bind_apply] at ok ⊢
  generalize m s = r at ok ⊢
  rcases r with ⟨_ | a,t,l⟩
  · cases ok
  · exact ⟨a,rfl,ok,rfl⟩

def Sets (g : σ → σ) (m : Body σ α) : Prop := ∀ s a, (m s).1 = .ok a → (m s).2.1 = g s

theorem Sets.bind {g h : σ → σ} {m : Body σ α} {f : α → Body σ β} (hm : Sets g m)
    (hf : ∀ a, Sets h (f a)) : Sets (h ∘ g) (m >>= f) := fun s b ok => by
  have hs := hm s
  simp only [bind_apply] at ok ⊢
  generalize m s = r at ok hs ⊢
  rcases r with ⟨_ | a,t,l⟩
  · cases ok
  · cases hs a rfl; exact hf a _ b ok

theorem Sets.modify' (f : σ → σ) : Sets f (modify f) := fun _ _ _ => rfl

def Ensures (P : σ → Prop) (m : Body σ α) : Prop := ∀ s a, (m s).1 = .ok a → P (m s).2.1

theorem Ensures.bind {P : σ → Prop} (m : Body σ α) {f : α → Body σ β} (hf : ∀ a, Ensures P (f a)) :
    Ensures P (m >>= f) := fun _ _ ok => by
  obtain ⟨a,-,ok',e⟩ := bind_ok ok
  rw [e]; exact hf a _ _ ok'

theorem Ensures.modify' {P : σ → Prop} {f : σ → σ} (h : ∀ s, P (f s)) : Ensures P (modify f) :=
  fun s _ _ => h s

def CallsOnly (P : Call → Prop) (m : Body σ α) : Prop := ∀ s, ∀ c ∈ (m s).2.2, P c

namespace CallsOnly
variable {P : Call → Prop}

theorem bind {m : Body σ α} {f : α → Body σ β} (hm : CallsOnly P m) (hf : ∀ a, CallsOnly P (f a)) :
    CallsOnly P (m >>= f) := fun s c mem => by
  have hs := hm s
  simp only [bind_apply] at mem
  generalize m s = r at mem hs
  rcases r with ⟨_ | a,t,l⟩
  · exact hs c mem
  · rcases List.mem_append.1 mem with h | h
    · exact hs c h
    · exact hf a t c h

theorem pure' (a : α) : CallsOnly P (pure a : Body σ α) := fun _ _ h => nomatch h
theorem get' : CallsOnly P (get : Body σ σ) := fun _ _ h => nomatch h
theorem modify' (f : σ → σ) : CallsOnly P (modify f) := fun _ _ h => nomatch h
theorem abort' (r : Failure) : CallsOnly P (abort r : Body σ α) := fun _ _ h => nomatch h
theorem chk' (r : RsRetVal) : CallsOnly P (chk r : Body σ Unit) := fun _ _ mem => by
  simp only [chk_apply] at mem; split at mem <;> exact nomatch mem
theorem call' {c : Call} (h : P c) : CallsOnly P (call c : Body σ Unit) := fun _ _ mem => by
  rw [call_apply,List.mem_singleton] at mem; exact mem ▸ h
theorem ext' {c : Call} (r : RsRetVal) (h : P c) : CallsOnly P (ext c r : Body σ Unit) := fun s _ mem => by
  simp only [ext_apply] at mem
  split at mem <;> rw [List.mem_singleton] at mem <;> exact mem ▸ h
theorem onError' {m : Body σ Unit} {h : RsRetVal → Body σ Unit} (hm : CallsOnly P m)
    (hh : ∀ r, CallsOnly P (h r)) : CallsOnly P (onError m h) := fun s c mem => by
  have hs := hm s
  simp only [onError_apply] at mem
  generalize m s = r at mem hs
  rcases r with ⟨_ | a,t,l⟩
  · rcases List.mem_append.1 mem with h | h
    · exact hs c h
    · exact hh _ t c h
  · exact hs c mem
theorem ite' {p : Prop} [Decidable p] {a b : Body σ α} (ha : CallsOnly P a) (hb : CallsOnly P b) :
    CallsOnly P (if p then a else b) := by split <;> assumption

end CallsOnly

def Makes (c : Call) (m : Body σ α) : Prop := ∀ s a, (m s).1 = .ok a → c ∈ (m s).2.2

namespace Makes
variable {c : Call}

theorem call' : Makes c (call c : Body σ Unit) := fun _ _ _ => List.mem_singleton_self c
theorem ext' (r : RsRetVal) : Makes c (ext c r : Body σ Unit) := fun _ _ _ => by
  simp only [ext_apply]; split <;> exact List.mem_singleton_self c

theorem bind_left {m : Body σ α} {f : α → Body σ β} (hm : Makes c m) : Makes c (m >>= f) := fun s b ok => by
  obtain ⟨a,first,-,-⟩ := bind_ok ok
  have made := hm s a first
  simp only [bind_apply]
  generalize m s = r at first made
  rcases r with ⟨_ | _,t,l⟩
  · cases first
  · exact List.mem_append_left _ made

theorem bind_right {m : Body σ α} {f : α → Body σ β} (hf : ∀ a, Makes c (f a)) : Makes c (m >>= f) :=
  fun s b ok => by
  obtain ⟨a,first,second,-⟩ := bind_ok ok
  have made := hf a _ b second
  simp only [bind_apply]
  generalize m s = r at first made
  rcases r with ⟨_ | _,t,l⟩
  · cases first
  · cases first
    exact List.mem_append_right _ made

theorem ite' {p : Prop} [Decidable p] {a b : Body σ α} (ha : Makes c a) (hb : Makes c b) :
    Makes c (if p then a else b) := by
  split
  · exact ha
  · exact hb

theorem get_bind_at {f : σ → Body σ β} {s : σ} {b : β} (h : Makes c (f s)) (ok : ((get >>= f) s).1 = .ok b) :
    c ∈ ((get >>= f) s).2.2 := by
  simp only [bind_apply,get_apply,List.nil_append] at ok ⊢
  exact h s b ok

end Makes

def Retargets (g : Call → Call) (m m' : Body σ α) : Prop :=
  ∀ s, m' s = ((m s).1,(m s).2.1,(m s).2.2.map g)

namespace Retargets
variable {g : Call → Call}

theorem bind {m m' : Body σ α} {f f' : α → Body σ β} (hm : Retargets g m m') (hf : ∀ a, Retargets g (f a) (f' a)) :
    Retargets g (m >>= f) (m' >>= f') := fun s => by
  simp only [bind_apply,hm s]
  generalize m s = r
  rcases r with ⟨_ | a,t,l⟩
  · rfl
  · simp only [hf a t,List.map_append]

theorem get_bind_at {f f' : σ → Body σ β} {s : σ} (h : Retargets g (f s) (f' s)) :
    (get >>= f') s = (((get >>= f) s).1,((get >>= f) s).2.1,((get >>= f) s).2.2.map g) := by
  simp only [bind_apply,get_apply,h s,List.nil_append]

theorem get' : Retargets g (get : Body σ σ) get := fun _ => rfl
theorem pure' (a : α) : Retargets g (pure a : Body σ α) (pure a) := fun _ => rfl
theorem call' {c c' : Call} (h : g c = c') : Retargets g (call c : Body σ Unit) (call c') := fun _ => by
  simp [h]
theorem ext' {c c' : Call} (r : RsRetVal) (h : g c = c') : Retargets g (ext c r : Body σ Unit) (ext c' r) :=
  fun _ => by simp only [ext_apply]; split <;> simp [h]
theorem ite' {p : Prop} [Decidable p] {a b a' b' : Body σ α} (ha : Retargets g a a') (hb : Retargets g b b') :
    Retargets g (if p then a else b) (if p then a' else b') := by split <;> assumption

end Retargets

def KeepsOnError {τ : Type} (π : σ → τ) (m : Body σ α) : Prop :=
  ∀ s e, (m s).1 = .error e → π (m s).2.1 = π s

namespace KeepsOnError
variable {τ : Type} {π : σ → τ}

theorem of_keeps {m : Body σ α} (h : Keeps π m) : KeepsOnError π m := fun s _ _ => h s

theorem bind {m : Body σ α} {f : α → Body σ β} (hm : Keeps π m) (hf : ∀ a, KeepsOnError π (f a)) :
    KeepsOnError π (m >>= f) := fun s e failed => by
  have hs := hm s
  simp only [bind_apply] at failed ⊢
  generalize m s = r at failed hs ⊢
  rcases r with ⟨_ | a,t,l⟩
  · exact hs
  · exact (hf a t e failed).trans hs

theorem modify' (f : σ → σ) : KeepsOnError π (modify f) := fun _ _ failed => by cases failed
theorem ite' {p : Prop} [Decidable p] {a b : Body σ α} (ha : KeepsOnError π a) (hb : KeepsOnError π b) :
    KeepsOnError π (if p then a else b) := by split <;> assumption

theorem finish_failed {m : Body σ Unit} (hm : KeepsOnError π m) (s : σ) (failed : (finish m s).1 ≠ .ok) :
    π (finish m s).2.1 = π s := by
  have spec := hm s
  simp only [finish_apply] at failed ⊢
  generalize m s = r at failed spec
  rcases r with ⟨e | _,t,l⟩
  · exact spec e rfl
  · exact absurd rfl failed

end KeepsOnError

-- `m` neither reads nor writes what `u` changes: running it after `u` is running it, then `u`.
def Commutes (u : σ → σ) (m : Body σ α) : Prop := ∀ s, m (u s) = ((m s).1,u (m s).2.1,(m s).2.2)

namespace Commutes
variable {u : σ → σ}

theorem bind {m : Body σ α} {f : α → Body σ β} (hm : Commutes u m) (hf : ∀ a, Commutes u (f a)) :
    Commutes u (m >>= f) := fun s => by
  simp only [bind_apply,hm s]
  generalize m s = r
  rcases r with ⟨_ | a,t,l⟩
  · rfl
  · simp only [hf a t]

theorem get_bind {f : σ → Body σ β} (reads : ∀ s, f (u s) = f s) (hf : ∀ s, Commutes u (f s)) :
    Commutes u (get >>= f) := fun s => by
  simp only [bind_apply,get_apply,reads,hf s s]

theorem pure' (a : α) : Commutes u (pure a : Body σ α) := fun _ => rfl
theorem call' (c : Call) : Commutes u (call c : Body σ Unit) := fun _ => rfl
theorem abort' (r : Failure) : Commutes u (abort r : Body σ α) := fun _ => rfl
theorem ext' (c : Call) (r : RsRetVal) : Commutes u (ext c r : Body σ Unit) := fun s => by
  simp only [ext_apply]; split <;> rfl
theorem chk' (r : RsRetVal) : Commutes u (chk r : Body σ Unit) := fun s => by
  simp only [chk_apply]; split <;> rfl
theorem modify' {f : σ → σ} (h : ∀ s, f (u s) = u (f s)) : Commutes u (modify f) := fun s => by
  simp only [modify_apply,h]
theorem onError' {m : Body σ Unit} {h : RsRetVal → Body σ Unit} (hm : Commutes u m)
    (hh : ∀ r, Commutes u (h r)) : Commutes u (onError m h) := fun s => by
  simp only [onError_apply,hm s]
  generalize m s = r
  rcases r with ⟨_ | a,t,l⟩
  · simp only [hh _ t]
  · rfl
theorem ite' {p : Prop} [Decidable p] {a b : Body σ α} (ha : Commutes u a) (hb : Commutes u b) :
    Commutes u (if p then a else b) := by split <;> assumption

end Commutes

-- On success `m` leaves `g s` having made the calls `l s`: a specification callers cite instead of the body.
def Yields (g : σ → σ) (l : σ → List Call) (m : Body σ α) : Prop :=
  ∀ s a, (m s).1 = .ok a → (m s).2.1 = g s ∧ (m s).2.2 = l s

namespace Yields
variable {g h : σ → σ} {l k : σ → List Call}

theorem bind {m : Body σ α} {f : α → Body σ β} (hm : Yields g l m) (hf : ∀ a, Yields h k (f a)) :
    Yields (h ∘ g) (fun s => l s ++ k (g s)) (m >>= f) := fun s b ok => by
  obtain ⟨a,first,second,-⟩ := bind_ok ok
  obtain ⟨state,calls⟩ := hm s a first
  simp only [bind_apply]
  generalize m s = r at first state calls second
  rcases r with ⟨_ | _,t,l'⟩
  · cases first
  · cases first
    subst state calls
    obtain ⟨state',calls'⟩ := hf a _ b second
    dsimp only at state' calls' ⊢
    exact ⟨state',by rw [calls']⟩

theorem of_eq {g' : σ → σ} {l' : σ → List Call} {m : Body σ α} (hm : Yields g' l' m) (hg : g' = g) (hl : l' = l) :
    Yields g l m := hg ▸ hl ▸ hm

theorem get_bind {g : σ → σ → σ} {l : σ → σ → List Call} {f : σ → Body σ β} (hf : ∀ p, Yields (g p) (l p) (f p)) :
    Yields (fun s => g s s) (fun s => l s s) (get >>= f) := fun s b ok => by
  simp only [bind_apply,get_apply,List.nil_append] at ok ⊢
  exact hf s s b ok

theorem pure' (a : α) : Yields id (fun _ => []) (pure a : Body σ α) := fun _ _ _ => ⟨rfl,rfl⟩
theorem modify' (f : σ → σ) : Yields f (fun _ => []) (modify f) := fun _ _ _ => ⟨rfl,rfl⟩
theorem call' (c : Call) : Yields id (fun _ => [c]) (call c : Body σ Unit) := fun _ _ _ => ⟨rfl,rfl⟩
theorem ext' (c : Call) (r : RsRetVal) : Yields id (fun _ => [c]) (ext c r : Body σ Unit) := fun _ _ _ => by
  simp only [ext_apply]; split <;> exact ⟨rfl,rfl⟩
theorem chk' (r : RsRetVal) : Yields id (fun _ => []) (chk r : Body σ Unit) := fun _ _ _ => by
  simp only [chk_apply]; split <;> exact ⟨rfl,rfl⟩
theorem onError' {m : Body σ Unit} (hm : Yields g l m) (handler : RsRetVal → Body σ Unit) :
    Yields g l (onError m handler) := fun s a ok => by
  have spec := hm s
  simp only [onError_apply] at ok ⊢
  generalize m s = r at ok spec
  rcases r with ⟨_ | _,t,l'⟩
  · cases ok
  · exact spec a ok
theorem ite' {p : Prop} [Decidable p] {g' : σ → σ} {l' : σ → List Call} {a b : Body σ α}
    (ha : Yields g l a) (hb : Yields g' l' b) :
    Yields (if p then g else g') (if p then l else l') (if p then a else b) := by
  split
  · exact ha
  · exact hb

theorem finish_ok {m : Body σ Unit} (hm : Yields g l m) (s : σ) (ok : (finish m s).1 = .ok) :
    (finish m s).2 = (g s,l s) := by
  have spec := hm s
  simp only [finish_apply] at ok ⊢
  generalize m s = r at ok spec
  rcases r with ⟨⟨_,failed⟩ | _,t,l'⟩
  · exact absurd ok failed
  · obtain ⟨state,calls⟩ := spec () rfl
    exact Prod.ext state calls

end Yields

def status : Except Failure α → RsRetVal
  | .ok _ => .ok
  | .error e => e.iRet

-- `m` ends with the status of the CHKiRet chain `L s`: its first failure, else RS_RET_OK.
def Checks (L : σ → List RsRetVal) (m : Body σ α) : Prop := ∀ s, status (m s).1 = firstFailure (L s)

namespace Checks
variable {L L' : σ → List RsRetVal}

theorem bind {m : Body σ α} {f : α → Body σ β} {g : σ → σ} {l : σ → List Call} (hm : Checks L m)
    (hy : Yields g l m) (hf : ∀ a, Checks L' (f a)) : Checks (fun s => L s ++ L' (g s)) (m >>= f) := fun s => by
  have chk := hm s
  have spec := hy s
  simp only [bind_apply,firstFailure_append]
  generalize m s = r at chk spec
  rcases r with ⟨e | a,t,l'⟩
  · simp only [status] at chk ⊢
    rw [← chk,if_neg e.failed]
  · obtain ⟨rfl,-⟩ := spec a rfl
    simp only [status] at chk
    rw [← chk,if_pos rfl]
    exact hf a _

theorem get_bind {L : σ → σ → List RsRetVal} {f : σ → Body σ β} (hf : ∀ p, Checks (L p) (f p)) :
    Checks (fun s => L s s) (get >>= f) := fun s => by
  simp only [bind_apply,get_apply,List.nil_append]
  exact hf s s

theorem of_eq {m : Body σ α} (hm : Checks L' m) (h : ∀ s, firstFailure (L' s) = firstFailure (L s)) : Checks L m :=
  fun s => (hm s).trans (h s)

theorem pure' (a : α) : Checks (fun _ => []) (pure a : Body σ α) := fun _ => rfl
theorem modify' (f : σ → σ) : Checks (fun _ => []) (modify f) := fun _ => rfl
theorem call' (c : Call) : Checks (fun _ => []) (call c : Body σ Unit) := fun _ => rfl
theorem ext' (c : Call) (r : RsRetVal) : Checks (fun _ => [r]) (ext c r : Body σ Unit) := fun _ => by
  simp only [ext_apply]; split <;> simp_all [status,firstFailure]
theorem chk' (r : RsRetVal) : Checks (fun _ => [r]) (chk r : Body σ Unit) := fun _ => by
  simp only [chk_apply]; split <;> simp_all [status,firstFailure]
theorem abort' (e : Failure) : Checks (fun _ => [e.iRet]) (abort e : Body σ α) := fun _ => by
  simp [status,firstFailure,e.failed]
theorem onError' {m : Body σ Unit} (hm : Checks L m) (handler : RsRetVal → Body σ Unit) :
    Checks L (onError m handler) := fun s => by
  have chk := hm s
  simp only [onError_apply]
  generalize m s = r at chk
  rcases r with ⟨_ | _,t,l⟩ <;> exact chk
theorem ite' {p : Prop} [Decidable p] {a b : Body σ α} (ha : Checks L a) (hb : Checks L' b) :
    Checks (fun s => if p then L s else L' s) (if p then a else b) := by
  split
  · exact ha
  · exact hb

theorem finish_status {m : Body σ Unit} (hm : Checks L m) (s : σ) : (finish m s).1 = firstFailure (L s) := by
  have chk := hm s
  simp only [finish_apply]
  generalize m s = r at chk
  rcases r with ⟨_ | _,t,l⟩ <;> exact chk

end Checks

-- However `m` ends, the calls `p` selects are a prefix of those it makes on success.
def Truncates (p : Call → Bool) (l : σ → List Call) (m : Body σ α) : Prop :=
  ∀ s, (m s).2.2.filter p <+: (l s).filter p

namespace Truncates
variable {p : Call → Bool} {l l' k : σ → List Call}

theorem bind {m : Body σ α} {f : α → Body σ β} {g : σ → σ} (hm : Truncates p l m) (hy : Yields g l m)
    (hf : ∀ a, Truncates p k (f a)) : Truncates p (fun s => l s ++ k (g s)) (m >>= f) := fun s => by
  have pre := hm s
  have spec := hy s
  simp only [bind_apply,List.filter_append]
  generalize m s = r at pre spec
  rcases r with ⟨_ | a,t,l'⟩
  · exact pre.trans (List.prefix_append _ _)
  · obtain ⟨rfl,rfl⟩ := spec a rfl
    simp only [List.filter_append]
    exact (List.prefix_append_right_inj _).2 (hf a _)

theorem get_bind {l : σ → σ → List Call} {f : σ → Body σ β} (hf : ∀ q, Truncates p (l q) (f q)) :
    Truncates p (fun s => l s s) (get >>= f) := fun s => by
  simp only [bind_apply,get_apply,List.nil_append]
  exact hf s s

theorem of_eq {m : Body σ α} (hm : Truncates p l' m) (h : ∀ s, l' s = l s) : Truncates p l m :=
  fun s => h s ▸ hm s

theorem pure' (a : α) : Truncates p (fun _ => []) (pure a : Body σ α) := fun _ => List.prefix_refl _
theorem modify' (f : σ → σ) : Truncates p (fun _ => []) (modify f) := fun _ => List.prefix_refl _
theorem call' (c : Call) : Truncates p (fun _ => [c]) (call c : Body σ Unit) := fun _ => List.prefix_refl _
theorem ext' (c : Call) (r : RsRetVal) : Truncates p (fun _ => [c]) (ext c r : Body σ Unit) := fun _ => by
  simp only [ext_apply]; split <;> exact List.prefix_refl _
theorem chk' (r : RsRetVal) : Truncates p (fun _ => []) (chk r : Body σ Unit) := fun _ => by
  simp only [chk_apply]; split <;> exact List.prefix_refl _
theorem onError' {m : Body σ Unit} {handler : RsRetVal → Body σ Unit} (hm : Truncates p l m)
    (quiet : ∀ r, CallsOnly (fun c => p c = false) (handler r)) : Truncates p l (onError m handler) := fun s => by
  have pre := hm s
  simp only [onError_apply]
  generalize m s = r at pre
  rcases r with ⟨e | _,t,l'⟩
  · have none : (handler e.iRet t).2.2.filter p = [] :=
      List.filter_eq_nil_iff.2 fun c mem => by simp [quiet e.iRet t c mem]
    simpa only [List.filter_append,none,List.append_nil] using pre
  · exact pre
theorem ite' {c : Prop} [Decidable c] {a b : Body σ α} (ha : Truncates p l a) (hb : Truncates p l' b) :
    Truncates p (fun s => if c then l s else l' s) (if c then a else b) := by
  split
  · exact ha
  · exact hb

end Truncates

end Body

end RsyslogMbedtls

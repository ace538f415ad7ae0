import RsyslogMbedtls.Basic

namespace RsyslogMbedtls

-- strcasecmp(a,b) == 0 in the C locale
def strcasecmpEq (a b : String) : Bool := a.data.map Char.toLower == b.data.map Char.toLower

inductive PermPeerType where
  | undecided
  | plain
  | wildcard
  deriving DecidableEq, Repr

-- One entry of a permittedPeers_t list; the list itself is `List PermittedPeer`, [] being NULL.
structure PermittedPeer where
  pszID : String
  etryType : PermPeerType
  deriving DecidableEq, Repr

def setMode (mode : Int) : Proc NsdMbedtls := fun pThis =>
  if mode ≠ 0 ∧ mode ≠ 1 then
    (.invalidDrvrMode,pThis,[.logError .invalidDrvrMode
      ("error: driver mode " ++ toString mode ++ " not supported by mbedtls netstream driver")])
  else (.ok,{pThis with iMode := mode},[])

-- bChkName is cleared before the mode string is looked at, so it stays cleared on failure.
def setAuthMode (mode : Option String) : Proc NsdMbedtls := fun pThis =>
  let pThis := {pThis with bChkName := false}
  if mode.all (strcasecmpEq · "x509/name") then
    (.ok,{pThis with authMode := mbedtlsSslVerifyRequired,bChkName := true},[])
  else if mode.any (strcasecmpEq · "x509/certvalid") then
    (.ok,{pThis with authMode := mbedtlsSslVerifyRequired},[])
  else if mode.any (strcasecmpEq · "anon") then
    (.ok,{pThis with authMode := mbedtlsSslVerifyNone},[])
  else
    (.valueNotSupported,pThis,[.logError .valueNotSupported ("error: authentication mode \x27" ++
      mode.getD "" ++ "\x27 not supported by mbedtls netstream driver")])

def setPermitExpiredCerts (mode : Option String) : Proc NsdMbedtls := fun pThis =>
  if mode.any (fun m => !strcasecmpEq m "off") then
    (.valueNotSupported,pThis,[.logError .valueNotSupported ("error: permitexpiredcerts mode \x27" ++
      mode.getD "" ++ "\x27 not supported by mbedtls netstream driver")])
  else (.ok,pThis,[])

-- Only the first entry is kept. `strdupOk` is whether duplicating its name succeeds; the old
-- peer is freed before, so a failed duplication leaves none.
def setPermPeers (pPermPeers : List PermittedPeer) (strdupOk : Bool) : Proc NsdMbedtls := fun pThis =>
  match pPermPeers with
  | [] => (.ok,{pThis with pPermPeer := none},[])
  | peer :: rest =>
    if pThis.authMode ≠ mbedtlsSslVerifyRequired ∨ pThis.bChkName = false then
      (.valueNotInThisMode,pThis,[.logError .valueNotInThisMode
        "SetPermPeers not supported by mbedtls netstream driver in the configured authentication mode"])
    else if peer.etryType ≠ .undecided ∧ peer.etryType ≠ .plain then
      (.valueNotSupported,pThis,[.logError .valueNotInThisMode
        "SetPermPeers: only plain text peer authentication supported by mbedtls netstream driver"])
    else
      let warned : List Call := if rest = [] then [] else [.logMsg .valueNotSupported logWarning
        "SetPermPeers warning: only one peer supported by mbedtls netstream driver"]
      if strdupOk then (.ok,{pThis with pPermPeer := some peer.pszID},warned)
      else (.outOfMemory,{pThis with pPermPeer := none},warned)

def setGnutlsPriorityString (gnutlsPriorityString : Option String) : Proc NsdMbedtls := fun pThis =>
  match gnutlsPriorityString with
  | none => (.ok,pThis,[])
  | some s => (.valueNotSupported,pThis,[.logError .valueNotSupported
      ("error: SetGnutlsPriorityString: " ++ s ++ " not supported by mbedtls netstream driver")])

-- SetCheckExtendedKeyUsage and SetPrioritizeSAN: any value but 1 is accepted with a warning and ignored.
def ignoredUnlessOne (option : String) (n : Int) : Proc NsdMbedtls := fun pThis =>
  (.ok,pThis,if n ≠ 1 then [.logMsg .valueNotSupported logWarning ("warning: driver " ++ option ++ " " ++
    toString n ++ " ignored as not supported by mbedtls netstream driver")] else [])

def setCheckExtendedKeyUsage (chkExtendedKeyUsage : Int) : Proc NsdMbedtls :=
  ignoredUnlessOne "ChkExtendedKeyUsage" chkExtendedKeyUsage
def setPrioritizeSAN (prioritizeSan : Int) : Proc NsdMbedtls :=
  ignoredUnlessOne "PrioritizeSAN" prioritizeSan

def setTlsVerifyDepth (verifyDepth : Int) : Proc NsdMbedtls := fun pThis =>
  (.ok,{pThis with drvrVerifyDepth := verifyDepth},[])

-- The four SetTls*File setters: the stored path is freed before the copy, so a failed strdup leaves NULL.
def setTlsFile (c : Cred) (file : Option String) (strdupOk : Bool) : Proc NsdMbedtls := fun pThis =>
  match file with
  | none => (.ok,pThis.setFile none c,[])
  | some f => if strdupOk then (.ok,pThis.setFile (some f) c,[]) else (.outOfMemory,pThis.setFile none c,[])

def setTlsCAFile (caFile : Option String) : Bool → Proc NsdMbedtls := setTlsFile .ca caFile
def setTlsCRLFile (crlFile : Option String) : Bool → Proc NsdMbedtls := setTlsFile .crl crlFile
def setTlsKeyFile (pszFile : Option String) : Bool → Proc NsdMbedtls := setTlsFile .key pszFile
def setTlsCertFile (pszFile : Option String) : Bool → Proc NsdMbedtls := setTlsFile .cert pszFile

inductive Setter where
  | setMode (mode : Int)
  | setAuthMode (mode : Option String)
  | setPermitExpiredCerts (mode : Option String)
  | setPermPeers (pPermPeers : List PermittedPeer) (strdupOk : Bool)
  | setGnutlsPriorityString (s : Option String)
  | setCheckExtendedKeyUsage (n : Int)
  | setPrioritizeSAN (n : Int)
  | setTlsVerifyDepth (n : Int)
  | setTlsCAFile (file : Option String) (strdupOk : Bool)
  | setTlsCRLFile (file : Option String) (strdupOk : Bool)
  | setTlsKeyFile (file : Option String) (strdupOk : Bool)
  | setTlsCertFile (file : Option String) (strdupOk : Bool)
  deriving DecidableEq, Repr

def Setter.exec : Setter → Proc NsdMbedtls
  | .setMode m => RsyslogMbedtls.setMode m
  | .setAuthMode m => RsyslogMbedtls.setAuthMode m
  | .setPermitExpiredCerts m => RsyslogMbedtls.setPermitExpiredCerts m
  | .setPermPeers p ok => RsyslogMbedtls.setPermPeers p ok
  | .setGnutlsPriorityString s => RsyslogMbedtls.setGnutlsPriorityString s
  | .setCheckExtendedKeyUsage n => RsyslogMbedtls.setCheckExtendedKeyUsage n
  | .setPrioritizeSAN n => RsyslogMbedtls.setPrioritizeSAN n
  | .setTlsVerifyDepth n => RsyslogMbedtls.setTlsVerifyDepth n
  | .setTlsCAFile f ok => RsyslogMbedtls.setTlsCAFile f ok
  | .setTlsCRLFile f ok => RsyslogMbedtls.setTlsCRLFile f ok
  | .setTlsKeyFile f ok => RsyslogMbedtls.setTlsKeyFile f ok
  | .setTlsCertFile f ok => RsyslogMbedtls.setTlsCertFile f ok

theorem setter_frame (s : Setter) (d : NsdMbedtls) : (s.exec d).2.1 = d.withConfig (s.exec d).2.1.config := by
  cases s <;> simp only [Setter.exec,setMode,setAuthMode,setPermitExpiredCerts,setPermPeers,
    setGnutlsPriorityString,setCheckExtendedKeyUsage,setPrioritizeSAN,ignoredUnlessOne,setTlsVerifyDepth,
    setTlsCAFile,setTlsCRLFile,setTlsKeyFile,setTlsCertFile,setTlsFile] <;> (repeat' split) <;> rfl

theorem setter_iMode (s : Setter) (d : NsdMbedtls) :
    (s.exec d).2.1.iMode = d.iMode ∨ ∃ m, s = .setMode m ∧ ((s.exec d).2.1.iMode = 0 ∨ (s.exec d).2.1.iMode = 1) := by
  cases s
  case setMode m =>
    simp only [Setter.exec,setMode]
    split
    · exact .inl rfl
    · exact .inr ⟨m,rfl,show m = 0 ∨ m = 1 by omega⟩
  all_goals refine .inl ?_
  all_goals simp only [Setter.exec,setAuthMode,setPermitExpiredCerts,setPermPeers,
    setGnutlsPriorityString,setCheckExtendedKeyUsage,setPrioritizeSAN,ignoredUnlessOne,setTlsVerifyDepth,
    setTlsCAFile,setTlsCRLFile,setTlsKeyFile,setTlsCertFile,setTlsFile] <;> (repeat' split) <;> rfl

theorem setter_authMode (s : Setter) (d : NsdMbedtls) (notAuth : ∀ m, s ≠ .setAuthMode m) :
    (s.exec d).2.1.authMode = d.authMode ∧ (s.exec d).2.1.bChkName = d.bChkName := by
  cases s
  case setAuthMode m => exact absurd rfl (notAuth m)
  all_goals refine ⟨?_,?_⟩
  all_goals simp only [Setter.exec,setMode,setPermitExpiredCerts,setPermPeers,
    setGnutlsPriorityString,setCheckExtendedKeyUsage,setPrioritizeSAN,ignoredUnlessOne,setTlsVerifyDepth,
    setTlsCAFile,setTlsCRLFile,setTlsKeyFile,setTlsCertFile,setTlsFile] <;> (repeat' split) <;> rfl

def PeerChecked (d : NsdMbedtls) : Prop :=
  d.pPermPeer ≠ none → d.authMode = mbedtlsSslVerifyRequired ∧ d.bChkName = true

theorem PeerChecked.of_config {d d' : NsdMbedtls} (same : d'.config = d.config) (checked : PeerChecked d) :
    PeerChecked d' := by
  have peer : d'.pPermPeer = d.pPermPeer := congrArg Config.pPermPeer same
  have mode : d'.authMode = d.authMode := congrArg Config.authMode same
  have chk : d'.bChkName = d.bChkName := congrArg Config.bChkName same
  simpa only [PeerChecked,peer,mode,chk] using checked

theorem setAuthMode_pPermPeer (mode : Option String) (d : NsdMbedtls) :
    (setAuthMode mode d).2.1.pPermPeer = d.pPermPeer := by
  simp only [setAuthMode]; split_ifs <;> rfl

theorem setter_peerChecked (s : Setter) (d : NsdMbedtls) (notAuth : ∀ m, s ≠ .setAuthMode m)
    (checked : PeerChecked d) : PeerChecked (s.exec d).2.1 := by
  cases s
  case setAuthMode m => exact absurd rfl (notAuth m)
  all_goals
    simp only [Setter.exec,setMode,setPermitExpiredCerts,setPermPeers,
      setGnutlsPriorityString,setCheckExtendedKeyUsage,setPrioritizeSAN,ignoredUnlessOne,setTlsVerifyDepth,
      setTlsCAFile,setTlsCRLFile,setTlsKeyFile,setTlsCertFile,setTlsFile]
    (repeat' split) <;> first | exact checked | exact fun stored => absurd rfl stored | exact fun _ => by simp_all

theorem setAuthMode_failed (mode : Option String) (d : NsdMbedtls) (failed : (setAuthMode mode d).1 ≠ .ok) :
    (setAuthMode mode d).2.1 = {d with bChkName := false} := by
  simp only [setAuthMode] at failed ⊢
  split_ifs at failed ⊢ <;> simp_all

theorem setter_failure_only_clears (s : Setter) (d : NsdMbedtls) (failed : (s.exec d).1 ≠ .ok) :
    (s.exec d).2.1 = d ∨ (s.exec d).2.1 = {d with bChkName := false} ∨ (s.exec d).2.1 = {d with pPermPeer := none} ∨
      ∃ c, (s.exec d).2.1 = d.setFile none c := by
  cases s
  case setAuthMode m => exact .inr (.inl (setAuthMode_failed m d failed))
  all_goals simp only [Setter.exec,setMode,setPermitExpiredCerts,setPermPeers,setGnutlsPriorityString,
    setCheckExtendedKeyUsage,setPrioritizeSAN,ignoredUnlessOne,setTlsVerifyDepth,setTlsCAFile,setTlsCRLFile,
    setTlsKeyFile,setTlsCertFile,setTlsFile] at failed ⊢
  all_goals (repeat' split) <;> simp_all

def keyPathSet : NsdMbedtls := (setTlsKeyFile (some "old.pem") true (nsdMbedtlsConstruct none)).2.1

theorem failed_key_copy_clears_path :
    ((Setter.setTlsKeyFile (some "new.pem") false).exec keyPathSet).2.1 = keyPathSet ∨
      ((Setter.setTlsKeyFile (some "new.pem") false).exec keyPathSet).2.1 = {keyPathSet with bChkName := false} ∨
      ((Setter.setTlsKeyFile (some "new.pem") false).exec keyPathSet).2.1 = {keyPathSet with pPermPeer := none} ∨
      ∃ c, ((Setter.setTlsKeyFile (some "new.pem") false).exec keyPathSet).2.1 = keyPathSet.setFile none c :=
  setter_failure_only_clears _ _ (by decide)

theorem setAuthMode_failure_drops_name_check :
    (setAuthMode none (nsdMbedtlsConstruct none)).2.1.bChkName = true ∧
    (setAuthMode (some "x509/nme") (setAuthMode none (nsdMbedtlsConstruct none)).2.1).1 = .valueNotSupported ∧
    (setAuthMode (some "x509/nme") (setAuthMode none (nsdMbedtlsConstruct none)).2.1).2.1.bChkName = false ∧
    (setAuthMode (some "x509/nme") (setAuthMode none (nsdMbedtlsConstruct none)).2.1).2.1.authMode =
      mbedtlsSslVerifyRequired := by decide

end RsyslogMbedtls

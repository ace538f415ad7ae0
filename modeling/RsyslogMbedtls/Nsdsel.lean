import RsyslogMbedtls.Basic

namespace RsyslogMbedtls

-- nsdsel_waitOp_t
inductive WaitOp where
  | rd
  | wr
  | rdwr
  deriving DecidableEq, Repr

inductive PtcpSelCall where
  | add (pTcp : Option Nat) (waitOp : WaitOp)
  | select
  | isReady (pTcp : Option Nat) (waitOp : WaitOp)
  deriving DecidableEq, Repr

-- struct nsdsel_mbedtls_s, with the nsdsel_ptcp object seen through the calls it has received.
structure NsdselMbedtls where
  pTcp : List PtcpSelCall
  iBufferRcvReady : Int
  deriving DecidableEq, Repr

structure PtcpSel where
  add : List PtcpSelCall → RsRetVal
  select : List PtcpSelCall → RsRetVal × Int
  isReady : List PtcpSelCall → Option Nat → WaitOp → RsRetVal × Bool

-- A pair Add answers from the session's buffer instead of registering it with nsdsel_ptcp.
def dummy (pNsd : NsdMbedtls) (waitOp : WaitOp) : Bool :=
  pNsd.iMode = 1 ∧ waitOp = .rd ∧ pNsd.bytesAvail ≠ 0

def PtcpSelCall.added : PtcpSelCall → Option (Option Nat × WaitOp)
  | .add pTcp waitOp => some (pTcp,waitOp)
  | _ => none

namespace NsdselMbedtls

def construct : NsdselMbedtls := ⟨[],0⟩

-- The source's two nested tests read as one condition: failing either forwards the pair to nsdsel_ptcp.
def add (os : PtcpSel) (pThis : NsdselMbedtls) (pNsd : NsdMbedtls) (waitOp : WaitOp) :
    RsRetVal × NsdselMbedtls :=
  if pNsd.iMode = 1 ∧ waitOp = .rd ∧ pNsd.bytesAvail ≠ 0 then
    (.ok,{pThis with iBufferRcvReady := pThis.iBufferRcvReady + 1})
  else (os.add pThis.pTcp,{pThis with pTcp := pThis.pTcp ++ [.add pNsd.pTcp waitOp]})

def select (os : PtcpSel) (pThis : NsdselMbedtls) : RsRetVal × Int × NsdselMbedtls :=
  if pThis.iBufferRcvReady > 0 then (.ok,pThis.iBufferRcvReady,pThis)
  else ((os.select pThis.pTcp).1,(os.select pThis.pTcp).2,{pThis with pTcp := pThis.pTcp ++ [.select]})

-- The fall back to nsdsel_ptcp is guarded by the counter alone, not by whether Select was a dummy.
def isReady (os : PtcpSel) (pThis : NsdselMbedtls) (pNsd : NsdMbedtls) (waitOp : WaitOp) :
    RsRetVal × Bool × NsdselMbedtls :=
  if pNsd.iMode = 1 ∧ waitOp = .rd ∧ 0 < pNsd.bytesAvail then
    (.ok,true,{pThis with iBufferRcvReady := pThis.iBufferRcvReady - 1})
  else if pThis.iBufferRcvReady ≠ 0 then (.ok,false,pThis)
  else
    ((os.isReady pThis.pTcp pNsd.pTcp waitOp).1,(os.isReady pThis.pTcp pNsd.pTcp waitOp).2,
      {pThis with pTcp := pThis.pTcp ++ [.isReady pNsd.pTcp waitOp]})

theorem add_dummy (os : PtcpSel) (s : NsdselMbedtls) (pNsd : NsdMbedtls) (waitOp : WaitOp)
    (buffered : dummy pNsd waitOp = true) :
    add os s pNsd waitOp = (.ok,{s with iBufferRcvReady := s.iBufferRcvReady + 1}) := by
  simp_all [add,dummy]

theorem add_forward (os : PtcpSel) (s : NsdselMbedtls) (pNsd : NsdMbedtls) (waitOp : WaitOp)
    (plain : dummy pNsd waitOp = false) :
    add os s pNsd waitOp = (os.add s.pTcp,{s with pTcp := s.pTcp ++ [.add pNsd.pTcp waitOp]}) := by
  simp_all [add,dummy]

theorem isReady_dummy (os : PtcpSel) (s : NsdselMbedtls) (pNsd : NsdMbedtls) (waitOp : WaitOp)
    (buffered : dummy pNsd waitOp = true) :
    isReady os s pNsd waitOp = (.ok,true,{s with iBufferRcvReady := s.iBufferRcvReady - 1}) := by
  simp_all [isReady,dummy,Nat.pos_iff_ne_zero]

theorem isReady_other (os : PtcpSel) (s : NsdselMbedtls) (pNsd : NsdMbedtls) (waitOp : WaitOp)
    (plain : dummy pNsd waitOp = false) :
    (isReady os s pNsd waitOp).2.2.iBufferRcvReady = s.iBufferRcvReady ∧
    (isReady os s pNsd waitOp).2.2.pTcp.filterMap PtcpSelCall.added = s.pTcp.filterMap PtcpSelCall.added := by
  have notBuffered : ¬(pNsd.iMode = 1 ∧ waitOp = .rd ∧ 0 < pNsd.bytesAvail) := by
    simp_all [dummy,Nat.pos_iff_ne_zero]
  simp only [isReady,if_neg notBuffered]
  split_ifs <;> simp [PtcpSelCall.added]

theorem select_frame (os : PtcpSel) (s : NsdselMbedtls) :
    (select os s).2.2.iBufferRcvReady = s.iBufferRcvReady ∧
    (select os s).2.2.pTcp.filterMap PtcpSelCall.added = s.pTcp.filterMap PtcpSelCall.added := by
  simp only [select]
  split_ifs <;> simp [PtcpSelCall.added]

def bufferedTls : NsdMbedtls := {nsdMbedtlsConstruct (some 1) with iMode := 1, bytesAvail := 5}
def plainTcp : NsdMbedtls := nsdMbedtlsConstruct (some 2)
def fdSetReady : PtcpSel := ⟨fun _ => .ok,fun _ => (.ok,2),fun _ _ _ => (.ok,true)⟩

theorem isReady_falls_through_after_dummy_select :
    let added := (add fdSetReady (add fdSetReady construct bufferedTls .rd).2 plainTcp .rd).2
    let selected := select fdSetReady added
    let first := isReady fdSetReady selected.2.2 bufferedTls .rd
    let second := isReady fdSetReady first.2.2 plainTcp .rd
    let plainFirst := isReady fdSetReady selected.2.2 plainTcp .rd
    selected.2.1 = 1 ∧ selected.2.2.pTcp = [.add (some 2) .rd] ∧ first.2.1 = true ∧
    second.2.1 = true ∧ second.2.2.pTcp = [.add (some 2) .rd,.isReady (some 2) .rd] ∧
    plainFirst.2.1 = false := by decide

end NsdselMbedtls

inductive SelCall where
  | add (pNsd : NsdMbedtls) (waitOp : WaitOp)
  | select
  | isReady (pNsd : NsdMbedtls) (waitOp : WaitOp)

structure Poll where
  sel : NsdselMbedtls
  pending : List (NsdMbedtls × WaitOp)
  selected : Bool
  added : List (NsdMbedtls × WaitOp)

namespace Poll
open NsdselMbedtls

def start : Poll := ⟨construct,[],false,[]⟩

-- A round is Adds, one Select, then IsReady calls each matching an unmatched Add of the round; a new
-- round begins once every Add is matched. Runs in which the caller stops querying before every Add
-- is matched (once Select's count is used up, say) are outside this harness.
def Allowed (p : Poll) : SelCall → Prop
  | .add _ _ | .select => p.selected = false ∨ p.pending = []
  | .isReady pNsd waitOp => p.selected = true ∧ (pNsd,waitOp) ∈ p.pending

def step (os : PtcpSel) (p : Poll) : SelCall → Poll
  | .add pNsd waitOp => {p with sel := (add os p.sel pNsd waitOp).2, pending := p.pending ++ [(pNsd,waitOp)]
                                selected := false, added := p.added ++ [(pNsd,waitOp)]}
  | .select => {p with sel := (select os p.sel).2.2, selected := true}
  | .isReady pNsd waitOp => {p with sel := (isReady os p.sel pNsd waitOp).2.2
                                    pending := p.pending.erase (pNsd,waitOp)}

inductive Reachable (os : PtcpSel) : Poll → Prop where
  | start : Reachable os start
  | step : Reachable os p → p.Allowed c → Reachable os (p.step os c)

structure Inv (p : Poll) : Prop where
  count : p.sel.iBufferRcvReady = p.pending.countP (fun x => dummy x.1 x.2)
  registered : p.sel.pTcp.filterMap PtcpSelCall.added =
    (p.added.filter (fun x => !dummy x.1 x.2)).map (fun x => (x.1.pTcp,x.2))

theorem countP_erase {α : Type} [BEq α] [LawfulBEq α] (q : α → Bool) (a : α) :
    ∀ l : List α, a ∈ l → l.countP q = (l.erase a).countP q + if q a then 1 else 0
  | b :: l, mem => by
    by_cases same : b = a
    · subst same; simp [List.countP_cons]
    · have rest : a ∈ l := by simpa [Ne.symm same] using mem
      rw [List.erase_cons_tail (by simpa using same),List.countP_cons,List.countP_cons,
        countP_erase q a l rest]
      omega

theorem start_inv : Inv start := ⟨rfl,rfl⟩

theorem step_inv (os : PtcpSel) (p : Poll) (c : SelCall) (inv : Inv p) (allowed : p.Allowed c) :
    Inv (p.step os c) := by
  obtain ⟨count,registered⟩ := inv
  cases c with
  | add pNsd waitOp =>
    cases buffered : dummy pNsd waitOp
    · rw [step,add_forward os _ _ _ buffered]
      exact ⟨by simpa [buffered] using count,by simp [registered,PtcpSelCall.added,buffered]⟩
    · rw [step,add_dummy os _ _ _ buffered]
      exact ⟨by simp [count,buffered],by simpa [buffered] using registered⟩
  | select =>
    obtain ⟨same,regs⟩ := select_frame os p.sel
    exact ⟨same.trans count,regs.trans registered⟩
  | isReady pNsd waitOp =>
    have split := countP_erase (fun x => dummy x.1 x.2) _ _ allowed.2
    cases buffered : dummy pNsd waitOp
    · obtain ⟨same,regs⟩ := isReady_other os p.sel pNsd waitOp buffered
      exact ⟨by simp_all [step],regs.trans registered⟩
    · rw [step,isReady_dummy os _ _ _ buffered]
      exact ⟨by simp_all,registered⟩

theorem reachable_inv (os : PtcpSel) (p : Poll) (reach : Reachable os p) : Inv p := by
  induction reach with
  | start => exact start_inv
  | step _ allowed ih => exact step_inv os _ _ ih allowed

theorem poll_counter (os : PtcpSel) (p : Poll) (reach : Reachable os p) :
    p.sel.iBufferRcvReady = p.pending.countP (fun x => dummy x.1 x.2) ∧
    0 ≤ p.sel.iBufferRcvReady ∧ (p.pending = [] → p.sel.iBufferRcvReady = 0) ∧
    p.sel.pTcp.filterMap PtcpSelCall.added =
      (p.added.filter (fun x => !dummy x.1 x.2)).map (fun x => (x.1.pTcp,x.2)) ∧
    (0 < p.sel.iBufferRcvReady → select os p.sel = (.ok,p.sel.iBufferRcvReady,p.sel)) ∧
    (p.sel.iBufferRcvReady = 0 → select os p.sel =
      ((os.select p.sel.pTcp).1,(os.select p.sel.pTcp).2,{p.sel with pTcp := p.sel.pTcp ++ [.select]})) ∧
    ∀ pNsd waitOp, (pNsd,waitOp) ∈ p.pending → dummy pNsd waitOp = true →
      (isReady os p.sel pNsd waitOp).2.1 = true := by
  obtain ⟨count,registered⟩ := reachable_inv os p reach
  refine ⟨count,by omega,fun drained => by simp [count,drained],registered,fun pos => if_pos pos,
    fun zero => if_neg (by omega),fun pNsd waitOp _ buffered => by rw [isReady_dummy os _ _ _ buffered]⟩

def twoAddsSelected : Poll :=
  ((start.step fdSetReady (.add bufferedTls .rd)).step fdSetReady (.add plainTcp .rd)).step fdSetReady .select

theorem two_adds_selected_counter :
    Reachable fdSetReady twoAddsSelected ∧
    (twoAddsSelected.sel.iBufferRcvReady = twoAddsSelected.pending.countP (fun x => dummy x.1 x.2) ∧
    0 ≤ twoAddsSelected.sel.iBufferRcvReady ∧
    (twoAddsSelected.pending = [] → twoAddsSelected.sel.iBufferRcvReady = 0) ∧
    twoAddsSelected.sel.pTcp.filterMap PtcpSelCall.added =
      (twoAddsSelected.added.filter (fun x => !dummy x.1 x.2)).map (fun x => (x.1.pTcp,x.2)) ∧
    (0 < twoAddsSelected.sel.iBufferRcvReady →
      select fdSetReady twoAddsSelected.sel = (.ok,twoAddsSelected.sel.iBufferRcvReady,twoAddsSelected.sel)) ∧
    (twoAddsSelected.sel.iBufferRcvReady = 0 → select fdSetReady twoAddsSelected.sel =
      ((fdSetReady.select twoAddsSelected.sel.pTcp).1,(fdSetReady.select twoAddsSelected.sel.pTcp).2,
        {twoAddsSelected.sel with pTcp := twoAddsSelected.sel.pTcp ++ [.select]})) ∧
    ∀ pNsd waitOp, (pNsd,waitOp) ∈ twoAddsSelected.pending → dummy pNsd waitOp = true →
      (isReady fdSetReady twoAddsSelected.sel pNsd waitOp).2.1 = true) :=
  have reach : Reachable fdSetReady twoAddsSelected := .step (.step (.step .start (.inl rfl)) (.inl rfl)) (.inl rfl)
  ⟨reach,poll_counter fdSetReady twoAddsSelected reach⟩

end Poll

end RsyslogMbedtls
